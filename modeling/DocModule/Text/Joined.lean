namespace DocModule.Text

-- The texts in order, with the same text between any two neighbours.
def joined (between : String) : List String → String
  | [] => ""
  | [text] => text
  | text :: rest => text ++ between ++ joined between rest

@[simp] theorem joined_nil (between : String) : joined between [] = "" :=
  rfl

@[simp] theorem joined_singleton (between text : String) : joined between [text] = text :=
  rfl

theorem joined_cons (between text : String) {rest : List String} (h : rest ≠ []) :
    joined between (text :: rest) = text ++ between ++ joined between rest := by
  cases rest with
  | nil => exact absurd rfl h
  | cons next rest => rfl

-- Texts one below the other, each on lines of its own.
def stacked : List String → String :=
  joined "\n"

-- Texts one below the other with a blank line between neighbours.
def paragraphs : List String → String :=
  joined "\n\n"

def nonempty (texts : List String) : List String :=
  texts.filter (· ≠ "")

end DocModule.Text
