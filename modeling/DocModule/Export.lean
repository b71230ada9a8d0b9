import DocModule.Text.Blank
import DocModule.Text.Word

namespace DocModule

-- The two ways to export the name default that are not supported: from another module, or as a new
-- name for a local binding.
inductive ReExport where
  | fromModule
  | localAlias
  deriving DecidableEq, Repr

-- What an export statement is, as far as a module cares: the default export with its expression, an
-- unsupported re-export, a declaration with the name it introduces, or any other statement. The
-- statement of the last two is the source as it stands.
inductive Export where
  | default (expression : String)
  | rejected (form : ReExport)
  | named (name statement : String)
  | other (statement : String)
  deriving DecidableEq, Repr

namespace Export

open Text

def after? : (word text : List Char) → Option (List Char)
  | [], text => some text
  | _ :: _, [] => none
  | w :: word, c :: text => if w = c then after? word text else none

def afterWord? (word : String) (text : List Char) : Option (List Char) :=
  after? word.toList text

def afterBlanks? : List Char → Option (List Char)
  | [] => none
  | c :: text => if isBlank c then some (trimStart text) else none

-- Whether a word that has just been read ends here.
def atWordEnd (text : List Char) : Bool :=
  !text.head?.any isWord

def afterDefault? (text : List Char) : Option (List Char) := do
  let text ← afterWord? "export" text
  let text ← afterBlanks? text
  let text ← afterWord? "default" text
  if atWordEnd text then some text else none

-- What follows the opening brace of a list of exported names.
def afterBrace? (text : List Char) : Option (List Char) := do
  let text ← afterWord? "export" text
  afterWord? "\x7b" (trimStart text)

-- The keyword of the clause that names another module, after any blanks.
def startsFrom (text : List Char) : Bool :=
  match afterWord? "from" (trimStart text) with
  | some text => atWordEnd text
  | none => false

-- A list that holds the name default alone, taken from another module.
def isDefaultFrom (text : List Char) : Bool :=
  let tail? := do
    let text ← afterBrace? text
    let text ← afterWord? "default" (trimStart text)
    afterWord? "\x7d" (trimStart text)
  tail?.any startsFrom

-- Whether the names between braces end in an alias to the name default. The text is read backwards.
def endsInDefaultAlias (names : List Char) : Bool :=
  let before? := do
    let text ← afterWord? "tluafed" (trimStart names.reverse)
    let text ← afterBlanks? text
    afterWord? "sa" text
  before?.any atWordEnd

-- A list of names whose last one is an alias to the name default.
def isDefaultAlias (text : List Char) : Bool :=
  match afterBrace? text with
  | some text =>
      text.any (· = '\x7d') && endsInDefaultAlias (text.takeWhile (· ≠ '\x7d'))
  | none => false

-- Whether a closing brace somewhere in the text is followed by the keyword from and a blank.
def hasFromClause : List Char → Bool
  | [] => false
  | c :: text =>
      (c = '\x7d' && ((afterWord? "from" (trimStart text)).bind afterBlanks?).isSome) ||
        hasFromClause text

def isNameStart (c : Char) : Bool :=
  c.isAlpha || c == '_' || c == '$'

def isNamePart (c : Char) : Bool :=
  isWord c || c == '$'

-- The longest name at the front of a text.
def nameAt? : List Char → Option (List Char)
  | [] => none
  | c :: text => if isNameStart c then some (c :: text.takeWhile isNamePart) else none

-- What follows the keyword of a declaration of a variable or a class and the blanks after it.
def afterBinding? (text : List Char) : Option (List Char) :=
  ["var", "const", "let", "class"].findSome? fun keyword =>
    (afterWord? keyword text).bind afterBlanks?

-- What follows the keyword of a function, with an asterisk or blanks between it and the name.
def afterFunction? (text : List Char) : Option (List Char) := do
  let start := ((afterWord? "async" text).bind afterBlanks?).getD text
  let text ← afterWord? "function" start
  match afterWord? "*" (trimStart text) with
  | some text => some (trimStart text)
  | none => afterBlanks? text

def declared? (text : List Char) : Option (List Char) := do
  let text ← afterWord? "export" text
  let text ← afterBlanks? text
  nameAt? (← (afterBinding? text).or (afterFunction? text))

-- The text without one semicolon at its end.
def dropSemicolon (text : List Char) : List Char :=
  if text.getLast? = some ';' then text.dropLast else text

def expression (text : List Char) : List Char :=
  trimEnd (dropSemicolon (trim text))

-- What an export statement is, judged by its text alone.
def classify (src : String) : Export :=
  let text := trim src.toList
  match afterDefault? text with
  | some rest => .default (String.ofList (expression rest))
  | none =>
      if isDefaultFrom text || isDefaultAlias text then
        .rejected (if hasFromClause text then .fromModule else .localAlias)
      else
        match declared? text with
        | some name => .named (String.ofList name) src
        | none => .other src

end Export

end DocModule
