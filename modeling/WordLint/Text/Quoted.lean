import WordLint.Text.Printable

/-!
# Quoted text

A quoted text shows a string or a sequence of bytes on one line, between apostrophes. It is put
between quotation marks instead when it contains an apostrophe and no quotation mark. The backslash
and the chosen quote are escaped, the three common controls have short escapes, and every other
character without a printed form is written by its code point in the shortest of the three widths.
-/

namespace WordLint.Text

/-- A number in lower-case hexadecimal digits, filled with zeros up to a width. -/
def hex (width n : Nat) : List Char :=
  let digits := Nat.toDigits 16 n
  List.replicate (width - digits.length) '0' ++ digits

/-- The quote around a text: an apostrophe, unless only that one occurs inside. -/
def quoteFor (s : List Char) : Char :=
  if s.contains '\'' && !s.contains '"' then '"' else '\''

/-- A character inside quotes. -/
def quotedChar (quote c : Char) : List Char :=
  if c == quote || c == '\\' then ['\\', c]
  else if c == '\n' then ['\\', 'n']
  else if c == '\r' then ['\\', 'r']
  else if c == '\t' then ['\\', 't']
  else if isPrintable c then [c]
  else if c.toNat < 0x100 then '\\' :: 'x' :: hex 2 c.toNat
  else if c.toNat < 0x10000 then '\\' :: 'u' :: hex 4 c.toNat
  else '\\' :: 'U' :: hex 8 c.toNat

/-- A text in quotes. -/
def quoted (s : String) : String :=
  let cs := s.toList
  let quote := quoteFor cs
  String.ofList (quote :: cs.flatMap (quotedChar quote) ++ [quote])

/-- A byte inside quotes: ASCII as in a text, all else by its value. -/
def quotedByte (quote : Char) (b : Nat) : List Char :=
  if b < 0x7F then quotedChar quote (Char.ofNat b) else '\\' :: 'x' :: hex 2 b

/-- A sequence of bytes in quotes, marked by a leading `b`. -/
def quotedBytes (bytes : List Nat) : String :=
  let quote := quoteFor (bytes.map Char.ofNat)
  String.ofList ('b' :: quote :: bytes.flatMap (quotedByte quote) ++ [quote])

end WordLint.Text
