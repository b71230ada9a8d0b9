import DocModule.Block.Basic
import DocModule.Error

namespace DocModule

inductive Level where
  | warn
  | debug
  | trace
  deriving DecidableEq, Repr

def Level.name : Level → String
  | .warn => "WARN"
  | .debug => "DEBUG"
  | .trace => "TRACE"

-- What is worth telling about the making of a module.
inductive Record where
  | skipped (kind : Kind)
  | skippedUnknown (tag : String)
  | layoutReplaced (previous next : String)
  | preambleBuilt (declarations names : Nat) (hasLayout : Bool)
  | bodyBuilt (fragments blocks : Nat)
  deriving DecidableEq, Repr

namespace Record

def level : Record → Level
  | .skipped _ | .skippedUnknown _ => .trace
  | .layoutReplaced _ _ => .warn
  | .preambleBuilt _ _ _ | .bodyBuilt _ _ => .debug

def message : Record → String
  | .skipped kind => "preamble skips " ++ kind.tag ++ " block"
  | .skippedUnknown tag => "preamble skips unknown `" ++ tag ++ "` block"
  | .layoutReplaced previous next =>
      "multiple default exports; layout `" ++ previous ++ "` replaced by `" ++ next ++ "`"
  | .preambleBuilt declarations names hasLayout =>
      "preamble: " ++ toString declarations ++ " declarations, " ++ toString names ++
        " export names, layout " ++ (if hasLayout then "set" else "unset")
  | .bodyBuilt fragments blocks =>
      "sections: " ++ toString fragments ++ " fragments from " ++ toString blocks ++ " blocks"

def line (record : Record) : String :=
  record.level.name ++ " " ++ record.message

end Record

-- A computation with what it told, in order, up to its result or its failure.
structure Run (α : Type) where
  records : List Record
  outcome : Except Error α

namespace Run

def tell (record : Record) : Run Unit :=
  ⟨[record], .ok ()⟩

def fail {α : Type} (error : Error) : Run α :=
  ⟨[], .error error⟩

def ofExcept {α : Type} (outcome : Except Error α) : Run α :=
  ⟨[], outcome⟩

instance : Monad Run where
  pure a := ⟨[], .ok a⟩
  bind run next :=
    match run.outcome with
    | .error error => ⟨run.records, .error error⟩
    | .ok a => ⟨run.records ++ (next a).records, (next a).outcome⟩

@[simp] theorem pure_eq {α : Type} (a : α) : (pure a : Run α) = ⟨[], .ok a⟩ :=
  rfl

@[simp] theorem bind_ok {α β : Type} (records : List Record) (a : α) (next : α → Run β) :
    (⟨records, .ok a⟩ : Run α) >>= next = ⟨records ++ (next a).records, (next a).outcome⟩ :=
  rfl

@[simp] theorem bind_error {α β : Type} (records : List Record) (error : Error) (next : α → Run β) :
    (⟨records, .error error⟩ : Run α) >>= next = ⟨records, .error error⟩ :=
  rfl

instance : LawfulMonad Run :=
  LawfulMonad.mk' Run
    (fun run => by rcases run with ⟨records, _ | a⟩ <;> simp [Functor.map])
    (fun a next => by simp)
    (fun run next last => by
      rcases run with ⟨records, error | a⟩
      · simp
      · rcases h : next a with ⟨records', error | b⟩ <;> simp [h])

end Run

end DocModule
