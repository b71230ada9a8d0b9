import DocModule.Json.Skim

namespace DocModule

-- What the maker of a module may be asked for. The first option is reserved and has no effect; the
-- second one declares the component as a local binding instead of the default export.
structure Options where
  singleBlock : Bool := false
  skipExport : Bool := false
  deriving DecidableEq, Repr, Inhabited

namespace Options

open Json

def singleBlockNames : List String :=
  ["single_block", "singleBlock"]

def skipExportNames : List String :=
  ["skip_export", "skipExport"]

-- The value of an option with two spellings: it may be given once at most, and as a boolean.
def flag? (names : List String) (members : List (String × Option Bool)) : Option Bool :=
  match members.filter (·.1 ∈ names) with
  | [] => some false
  | [(_, value)] => value
  | _ => none

def ofMembers? (members : List (String × Option Bool)) : Option Options := do
  some { singleBlock := ← flag? singleBlockNames members,
         skipExport := ← flag? skipExportNames members }

-- The options in order, where those at the end may be missing.
def ofItems? : List (Option Bool) → Option Options
  | [] => some {}
  | [single] => do some { singleBlock := ← single }
  | [single, skip] => do some { singleBlock := ← single, skipExport := ← skip }
  | _ => none

-- The members or items of an options text, and what follows them.
def read? (cs : List Char) : Option (Options × List Char) :=
  match skipSpace cs with
  | '\x7b' :: rest =>
      match skipSpace rest with
      | '\x7d' :: rest => some ({}, rest)
      | _ => do
          let (members, rest) ← Skim.outline? (fuelFor cs) rest
          some (← ofMembers? members, rest)
  | '[' :: rest =>
      match skipSpace rest with
      | ']' :: rest => some ({}, rest)
      | _ => do
          let (items, rest) ← Skim.series? (fuelFor cs) rest
          some (← ofItems? items, rest)
  | _ => none

def parse? (text : String) : Option Options :=
  match read? text.toList with
  | some (options, rest) => if (skipSpace rest).isEmpty then some options else none
  | none => none

end Options

end DocModule
