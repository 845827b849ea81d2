import WordLint.Value.Display

/-!
# Documents that are to be written

A document is put together as a draft: comments at the top and, below a blank line, tables inside one table
that has nothing else in it. How the draft is spelled is left to a writer. A writer may refuse a draft, and is
not bound to refuse one for its comments.
-/

namespace WordLint.Toml

/-- A table of a draft: a comment, and the entries below it. -/
structure DraftTable where
  name : String
  comment : String
  entries : List (Value × Value)

/-- A document that is to be written. -/
structure Draft where
  /-- The comments at the top. -/
  comments : List String
  /-- The name of the table that the tables are in. -/
  parent : String
  tables : List DraftTable

/-- Why a draft cannot be written. -/
inductive WriteProblem where
  /-- There is no form for values of this type. -/
  | unwritable (typeName : String)
  /-- A key stands for nothing. -/
  | noValue
  /-- A key is no text. -/
  | badKey
  /-- A key occurs twice. -/
  | keyTaken (key : String)
  | numeral (e : Text.NumeralError)
deriving Repr, DecidableEq

/-- The wording of a problem. -/
def WriteProblem.message : WriteProblem → String
  | .unwritable typeName => s!"Unable to convert an object of <class '{typeName}'> to a TOML item"
  | .noValue => "Non comment/whitespace items must have an associated key"
  | .badKey => "Keys must be strings"
  | .keyTaken key => s!"Key \"{key}\" already exists."
  | .numeral e => e.message

/-- What spells drafts out. -/
abbrev Writer := Draft → Except WriteProblem String

end WordLint.Toml
