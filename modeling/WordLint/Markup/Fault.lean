import WordLint.Text.Numeral

/-!
# Markup that cannot be read

Nearly every document can be read to its end. The exceptions are sections with square brackets whose
keyword is missing or unknown, and references with more digits than are read.
-/

namespace WordLint.Markup

/-- Why reading a document stops. -/
inductive Fault where
  /-- A section without a keyword; `excerpt` is the front of it. -/
  | keywordMissing (excerpt : List Char)
  /-- A section with an unknown keyword. -/
  | keywordUnknown (keyword : List Char)
  /-- A character reference with too many digits. -/
  | reference (e : Text.NumeralError)
deriving Repr, DecidableEq

/-- The wording of a fault. -/
def Fault.message : Fault → String
  | .keywordMissing excerpt => s!"expected name token at {Text.quoted (String.ofList excerpt)}"
  | .keywordUnknown keyword =>
    s!"unknown status keyword {Text.quoted (String.ofList keyword)} in marked section"
  | .reference e => e.message

end WordLint.Markup
