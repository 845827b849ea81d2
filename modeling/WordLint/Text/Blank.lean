import WordLint.Text.Ranges

/-!
# Blanks

The blanks are the characters whose bidirectional class is WS, B or S, or whose category is Zs
(Unicode 14): the ASCII blanks with the four information separators, NEL, and the spaces of other
scripts.
-/

namespace WordLint.Text

/-- The blanks. -/
def blankRanges : Ranges := [
  (0x9, 0xD), (0x1C, 0x20), (0x85, 0x85), (0xA0, 0xA0), (0x1680, 0x1680), (0x2000, 0x200A),
  (0x2028, 0x2029), (0x202F, 0x202F), (0x205F, 0x205F), (0x3000, 0x3000)]

/-- A blank of any script. -/
def isBlank (c : Char) : Bool :=
  blankRanges.has c

/-- A blank of ASCII: space, tab, line feed, vertical tab, form feed or carriage return. -/
def isAsciiBlank (c : Char) : Bool :=
  c == ' ' || (9 ≤ c.toNat && c.toNat ≤ 13)

/-- The text without the blanks at its two ends. -/
def trim (s : List Char) : List Char :=
  ((s.dropWhile isBlank).reverse.dropWhile isBlank).reverse

end WordLint.Text
