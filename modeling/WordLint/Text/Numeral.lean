import WordLint.Text.Blank
import WordLint.Text.Digit
import WordLint.Text.Quoted

/-!
# Numerals

An integer is read from decimal digits of any script: blanks at the ends are passed over, one sign may
lead, and single underscores may stand between digits. A numeral of more than 4300 digits is refused,
and so is writing one.
-/

namespace WordLint.Text

/-- The greatest number of digits with which an integer is read or written. -/
def maxDigits : Nat := 4300

/-- Why a text is no numeral. -/
inductive NumeralError where
  /-- The text is not the numeral of an integer. -/
  | malformed (text : String)
  /-- The numeral has more digits than are read. -/
  | tooLong (digits : Nat)
  /-- An integer has more digits than are written. -/
  | oversized
deriving Repr, DecidableEq

/-- The wording of a refusal. A long text is shown up to its two hundredth quoted character. -/
def NumeralError.message : NumeralError → String
  | .malformed text =>
    s!"invalid literal for int() with base 10: {String.ofList ((quoted text).toList.take 200)}"
  | .tooLong digits =>
    s!"Exceeds the limit ({maxDigits} digits) for integer string conversion: value has {digits} digits; " ++
      "use sys.set_int_max_str_digits() to increase the limit"
  | .oversized =>
    s!"Exceeds the limit ({maxDigits} digits) for integer string conversion; " ++
      "use sys.set_int_max_str_digits() to increase the limit"

/-- An integer with too many digits to be written. -/
def oversized (n : Int) : Bool :=
  Nat.pow 10 maxDigits ≤ n.natAbs

/-- The blanks that may surround a numeral: those of ASCII proper and all above ASCII. -/
def isNumeralBlank (c : Char) : Bool :=
  if c.toNat < 0x80 then isAsciiBlank c else isBlank c

/-- The values of a run of digits, single underscores between them left out; `none` when something
else occurs or an underscore has no digit on one side. -/
def digitValues? : List Char → Option (List Nat)
  | [] => none
  | [c] => (decimalValue? c).map ([·])
  | c :: '_' :: rest => do return (← decimalValue? c) :: (← digitValues? rest)
  | c :: rest => do return (← decimalValue? c) :: (← digitValues? rest)

/-- The number with these decimal digits, first digit first. -/
def ofDigits (digits : List Nat) : Nat :=
  digits.foldl (fun n d => 10 * n + d) 0

/-- A sign at the front, and the rest. -/
def splitSign : List Char → Bool × List Char
  | '-' :: rest => (true, rest)
  | '+' :: rest => (false, rest)
  | rest => (false, rest)

/-- Why a text without blanks and sign, `digits`, is no run of digits. It is read up to the first character that
belongs to no run of digits; when there are too many digits before it, nothing else is said. -/
def readError (text digits : List Char) : NumeralError :=
  match digitValues? (digits.takeWhile fun c => isDecimal c || c == '_') with
  | some values =>
    if maxDigits < values.length then .tooLong values.length else .malformed (String.ofList text)
  | none => .malformed (String.ofList text)

/-- The integer that a numeral denotes. -/
def readInt (text : List Char) : Except NumeralError Int :=
  let body := ((text.dropWhile isNumeralBlank).reverse.dropWhile isNumeralBlank).reverse
  let (negative, digits) := splitSign body
  match digitValues? digits with
  | none => .error (readError text digits)
  | some values =>
    if maxDigits < values.length then .error (.tooLong values.length)
    else .ok (if negative then -(ofDigits values : Int) else ofDigits values)

/-- A number is written with its decimal digits and no leading zero. -/
def decimal (n : Nat) : List Char :=
  Nat.toDigits 10 n

end WordLint.Text
