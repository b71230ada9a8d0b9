import DocModule.Log

namespace DocModule

namespace Run

variable {α β : Type}

@[simp] theorem outcome_pure (a : α) : (pure a : Run α).outcome = .ok a :=
  rfl

@[simp] theorem outcome_tell (record : Record) : (tell record).outcome = .ok () :=
  rfl

@[simp] theorem outcome_fail (error : Error) : (fail error : Run α).outcome = .error error :=
  rfl

@[simp] theorem outcome_ofExcept (outcome : Except Error α) : (ofExcept outcome).outcome = outcome :=
  rfl

-- What a run tells does not matter for its outcome, so outcomes compose like plain computations
-- that may fail.
@[simp] theorem outcome_bind (run : Run α) (next : α → Run β) :
    (run >>= next).outcome = run.outcome.bind fun a => (next a).outcome := by
  obtain ⟨records, error | a⟩ := run <;> rfl

theorem outcome_forM_tell (record : α → Record) (items : List α) :
    (items.forM fun item => tell (record item)).outcome = .ok () := by
  induction items with
  | nil => rfl
  | cons item items ih =>
      rw [List.forM, outcome_bind, outcome_tell]
      exact ih

theorem records_bind_of_ok {run : Run α} {a : α} (h : run.outcome = .ok a) (next : α → Run β) :
    (run >>= next).records = run.records ++ (next a).records := by
  obtain ⟨records, outcome⟩ := run
  subst h
  rfl

-- A run that has failed tells nothing more.
theorem records_bind_of_error {run : Run α} {error : Error} (h : run.outcome = .error error)
    (next : α → Run β) : (run >>= next).records = run.records := by
  obtain ⟨records, outcome⟩ := run
  subst h
  rfl

theorem records_forM_tell (record : α → Record) (items : List α) :
    (items.forM fun item => tell (record item)).records = items.map record := by
  induction items with
  | nil => rfl
  | cons item items ih =>
      rw [List.forM, records_bind_of_ok (outcome_tell _), ih]
      rfl

end Run

-- An error that comes before an outcome, if there is one.
def Error.before {α : Type} (error? : Option Error) (outcome : Except Error α) : Except Error α :=
  match error? with
  | some error => .error error
  | none => outcome

namespace Error

variable {α β : Type}

@[simp] theorem before_none (outcome : Except Error α) : before none outcome = outcome :=
  rfl

@[simp] theorem before_some (error : Error) (outcome : Except Error α) :
    before (some error) outcome = .error error :=
  rfl

theorem before_bind (error? : Option Error) (outcome : Except Error α) (next : α → Except Error β) :
    (before error? outcome).bind next = before error? (outcome.bind next) := by
  cases error? <;> rfl

def ofOutcome? : Except Error α → Option Error
  | .error error => some error
  | .ok _ => none

theorem ofOutcome?_eq_some_iff {outcome : Except Error α} {error : Error} :
    ofOutcome? outcome = some error ↔ outcome = .error error := by
  cases outcome <;> simp [ofOutcome?]

theorem ofOutcome?_eq_none_iff {outcome : Except Error α} :
    ofOutcome? outcome = none ↔ ∃ a, outcome = .ok a := by
  cases outcome <;> simp [ofOutcome?]

theorem eq_ok_of_toOption {outcome : Except Error α} {a : α} (h : outcome.toOption = some a) :
    outcome = .ok a := by
  cases outcome with
  | error error => cases h
  | ok b => exact congrArg Except.ok (Option.some.inj h)

-- Going through items one by one fails by the first item that fails.
theorem mapM_eq_before (f : α → Except Error β) (items : List α) :
    items.mapM f =
      before (items.findSome? fun item => ofOutcome? (f item))
        (.ok (items.filterMap fun item => (f item).toOption)) := by
  induction items with
  | nil => rfl
  | cons item items ih =>
      rw [List.mapM_cons, ih, List.findSome?_cons, List.filterMap_cons]
      cases f item with
      | error error => rfl
      | ok b => exact before_bind _ _ fun rest => .ok (b :: rest)

theorem mapM_eq_error_iff {f : α → Except Error β} {items : List α} {error : Error} :
    items.mapM f = .error error ↔
      ∃ before item after, items = before ++ item :: after ∧
        (∀ other ∈ before, ∃ b, f other = .ok b) ∧ f item = .error error := by
  have hfirst : items.mapM f = .error error ↔
      items.findSome? (fun item => ofOutcome? (f item)) = some error := by
    rw [mapM_eq_before]
    cases items.findSome? fun item => ofOutcome? (f item) <;> simp
  rw [hfirst, List.findSome?_eq_some_iff]
  simp only [ofOutcome?_eq_some_iff, ofOutcome?_eq_none_iff]
  constructor
  · rintro ⟨before, item, after, rfl, herror, hbefore⟩
    exact ⟨before, item, after, rfl, hbefore, herror⟩
  · rintro ⟨before, item, after, rfl, hbefore, herror⟩
    exact ⟨before, item, after, rfl, herror, hbefore⟩

end Error

end DocModule
