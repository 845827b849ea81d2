import WordLint.Markup.Reference.CapitalNames
import WordLint.Markup.Reference.SmallNames
import WordLint.Text.Numeral

/-!
# Character references

A reference in markup stands for a character: `&` and a name, `&#` and a decimal number, or `&#x` and
a hexadecimal number, each with a semicolon behind it that may be missing. `decode` replaces the
references of a text. What looks like a reference and is none stays as it is; a name that may go
without a semicolon is also recognised at the front of a longer one.

Numbers that denote no character are put right: those between 80 and 9F by the characters that
Windows has there, surrogates and numbers that are too large by the replacement character, and the
other numbers without a character by nothing.
-/

namespace WordLint.Reference

/-! ## Numbers -/

/-- What the numbers from 80 to 9F stand for. -/
def windowsCodes : List Nat := [
  0x20AC, 0x81, 0x201A, 0x192, 0x201E, 0x2026, 0x2020, 0x2021,
  0x2C6, 0x2030, 0x160, 0x2039, 0x152, 0x8D, 0x17D, 0x8F,
  0x90, 0x2018, 0x2019, 0x201C, 0x201D, 0x2022, 0x2013, 0x2014,
  0x2DC, 0x2122, 0x161, 0x203A, 0x153, 0x9D, 0x17E, 0x178]

/-- Numbers that stand for nothing: controls, and code points that are no characters. -/
def isVoid (n : Nat) : Bool :=
  (0x1 ≤ n && n ≤ 0x8) || n == 0xB || (0xE ≤ n && n ≤ 0x1F) || (0x7F ≤ n && n ≤ 0x9F) ||
    (0xFDD0 ≤ n && n ≤ 0xFDEF) || 0xFFFE ≤ n % 0x10000

/-- The replacement character. -/
def replacement : Char := '\uFFFD'

/-- What a number stands for. -/
def ofNumber (n : Nat) : List Char :=
  if n = 0 then [replacement]
  else if 0x80 ≤ n && n ≤ 0x9F then
    match windowsCodes[n - 0x80]? with
    | some code => [Char.ofNat code]
    | none => []
  else if (0xD800 ≤ n && n ≤ 0xDFFF) || 0x10FFFF < n then [replacement]
  else if isVoid n then []
  else [Char.ofNat n]

/-! ## Names -/

/-- The names that are also recognised without a semicolon. -/
def openNames : List String := [
  "AElig", "AMP", "Aacute", "Acirc", "Agrave", "Aring", "Atilde", "Auml", "COPY", "Ccedil",
  "ETH", "Eacute", "Ecirc", "Egrave", "Euml", "GT", "Iacute", "Icirc", "Igrave", "Iuml", "LT",
  "Ntilde", "Oacute", "Ocirc", "Ograve", "Oslash", "Otilde", "Ouml", "QUOT", "REG", "THORN",
  "Uacute", "Ucirc", "Ugrave", "Uuml", "Yacute", "aacute", "acirc", "acute", "aelig", "agrave",
  "amp", "aring", "atilde", "auml", "brvbar", "ccedil", "cedil", "cent", "copy", "curren", "deg",
  "divide", "eacute", "ecirc", "egrave", "eth", "euml", "frac12", "frac14", "frac34", "gt",
  "iacute", "icirc", "iexcl", "igrave", "iquest", "iuml", "laquo", "lt", "macr", "micro",
  "middot", "nbsp", "not", "ntilde", "oacute", "ocirc", "ograve", "ordf", "ordm", "oslash",
  "otilde", "ouml", "para", "plusmn", "pound", "quot", "raquo", "reg", "sect", "shy", "sup1",
  "sup2", "sup3", "szlig", "thorn", "times", "uacute", "ucirc", "ugrave", "uml", "uuml",
  "yacute", "yen", "yuml"]

/-- What a name with a semicolon stands for. -/
def ofName? (name : List Char) : Option (List Char) := do
  let first ← name.head?
  let names := if first.isUpper then namesFromCapital first else namesFromSmall first
  return (← names.lookup (String.ofList name)).map Char.ofNat

/-- What a name without a semicolon stands for. -/
def ofOpenName? (name : List Char) : Option (List Char) :=
  if openNames.contains (String.ofList name) then ofName? name else none

/-- The longest name of at most `most` characters at the front, what it stands for, and what follows. -/
def ofLongestFront? (body : List Char) : Nat → Option (List Char)
  | 0 => none
  | most + 1 =>
    match ofOpenName? (body.take (most + 1)) with
    | some cs => some (cs ++ body.drop (most + 1))
    | none => ofLongestFront? body most

/-- What stands behind the ampersand of a named reference, `closed` when a semicolon follows it. -/
def ofNamed (body : List Char) (closed : Bool) : List Char :=
  let semicolon := if closed then [';'] else []
  match if closed then ofName? body else ofOpenName? body with
  | some cs => cs
  | none =>
    let whole := body ++ semicolon
    match ofLongestFront? whole (whole.length - 1) with
    | some cs => cs
    | none => '&' :: whole

/-! ## References in a text -/

/-- A hexadecimal digit. -/
def isHexDigit (c : Char) : Bool :=
  c.isDigit || ('a' ≤ c && c ≤ 'f') || ('A' ≤ c && c ≤ 'F')

/-- The value of a hexadecimal digit. -/
def hexDigitValue (c : Char) : Nat :=
  if c.isDigit then c.toNat - '0'.toNat else c.toLower.toNat - 'a'.toNat + 10

/-- The number with these digits in a base. -/
def number (base : Nat) (digits : List Char) : Nat :=
  digits.foldl (fun n c => base * n + hexDigitValue c) 0

/-- A character that can stand in a name. -/
def isNameChar (c : Char) : Bool :=
  !(['\t', '\n', '\x0C', ' ', '<', '&', '#', ';'].contains c)

/-- Names are looked for among this many characters. -/
def maxName : Nat := 32

/-- One semicolon, if it comes next. -/
def semicolon (rest : List Char) : List Char :=
  rest.take (if rest.head? = some ';' then 1 else 0)

/-- A reference: what it stands for, and how many characters it takes behind the ampersand. -/
structure Found where
  meaning : List Char
  length : Nat

/-- The reference behind an ampersand, if there is one. -/
def find? (rest : List Char) : Except Text.NumeralError (Option Found) :=
  match rest with
  | '#' :: body =>
    let digits := body.takeWhile Char.isDigit
    if !digits.isEmpty then
      let stop := semicolon (body.drop digits.length)
      if Text.maxDigits < digits.length then .error (.tooLong digits.length)
      else .ok (some ⟨ofNumber (number 10 digits), 1 + digits.length + stop.length⟩)
    else match body with
      | x :: more =>
        let digits := more.takeWhile isHexDigit
        if (x = 'x' || x = 'X') && !digits.isEmpty then
          let stop := semicolon (more.drop digits.length)
          .ok (some ⟨ofNumber (number 16 digits), 2 + digits.length + stop.length⟩)
        else .ok none
      | [] => .ok none
  | _ =>
    let name := (rest.take maxName).takeWhile isNameChar
    if name.isEmpty then .ok none
    else
      let stop := semicolon (rest.drop name.length)
      .ok (some ⟨ofNamed name (!stop.isEmpty), name.length + stop.length⟩)

/-- The text with its references replaced. It is refused when a decimal number has too many digits. -/
def decode : List Char → Except Text.NumeralError (List Char)
  | [] => .ok []
  | c :: rest =>
    if c = '&' then do
      match ← find? rest with
      | some found => return found.meaning ++ (← decode (rest.drop found.length))
      | none => return c :: (← decode rest)
    else do return c :: (← decode rest)
termination_by cs => cs.length

end WordLint.Reference
