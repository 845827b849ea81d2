import WordLint.Decimal.Places
import WordLint.Value.Display

/-!
# Texts with placeholders

A placeholder begins with a percent sign and ends with a letter for the form of the value that takes its
place: a text, a shown value, a number in one of several bases, a decimal, or a character. In between may
stand a name in parentheses, flags, a width and a precision; for a width or precision a star takes the
next value. Two percent signs stand for one.

Values are taken in order, and all of them have to be. Where there are names, the values come from a
mapping: a name makes its value the next one, and before any name the mapping itself is the next one.
-/

namespace WordLint

/-- Why a text with placeholders cannot be filled in. -/
inductive FillProblem where
  | tooFew
  | tooMany
  /-- A placeholder without a letter at its end. -/
  | incomplete
  | incompleteName
  /-- A letter without meaning, and where it stands. -/
  | unsupported (letter : Char) (index : Nat)
  | needsName
  | unknownName (name : String)
  | needsNumber (letter : Char) (type : String)
  | needsInteger (letter : Char) (type : String)
  | needsDecimal (type : String)
  | needsCount
  | tooWide
  | tooPrecise
  | infinite
  | notANumber
  | integerTooLarge
  | needsChar
  | charOutOfRange
  | numeral (e : Text.NumeralError)
deriving Repr, DecidableEq

/-- The wording of a problem. -/
def FillProblem.message : FillProblem → String
  | .tooFew => "not enough arguments for format string"
  | .tooMany => "not all arguments converted during string formatting"
  | .incomplete => "incomplete format"
  | .incompleteName => "incomplete format key"
  | .unsupported letter index =>
    let shown := if letter.toNat < 0x1F || 0x7F ≤ letter.toNat then '?' else letter
    s!"unsupported format character '{shown}' (0x{String.ofList (Nat.toDigits 16 letter.toNat)}) " ++
      s!"at index {index}"
  | .needsName => "format requires a mapping"
  | .unknownName name => Text.quoted name
  | .needsNumber letter type => s!"%{letter} format: a real number is required, not {type}"
  | .needsInteger letter type => s!"%{letter} format: an integer is required, not {type}"
  | .needsDecimal type => s!"must be real number, not {type}"
  | .needsCount => "* wants int"
  | .tooWide => "width too big"
  | .tooPrecise => "precision too big"
  | .infinite => "cannot convert float infinity to integer"
  | .notANumber => "cannot convert float NaN to integer"
  | .integerTooLarge => "int too large to convert to float"
  | .needsChar => "%c requires int or char"
  | .charOutOfRange => "%c arg not in range(0x110000)"
  | .numeral e => e.message

/-! ## Where values come from -/

/-- What placeholders take their values from. -/
structure Supply where
  /-- What names are looked up in, if there are names. -/
  table : Option (List (String × Value))
  /-- The values that can still be taken. -/
  values : List Value

namespace Supply

/-- Values to be taken in order. -/
def listed (values : List Value) : Supply := ⟨none, values⟩

/-- A mapping whose values are taken by name. -/
def named (mapping : Value) : Supply :=
  let entries := mapping.entries?.getD []
  ⟨some (entries.filterMap fun e => e.1.str?.map (·, e.2)), [mapping]⟩

/-- Take the next value. -/
def take (s : Supply) : Except FillProblem (Value × Supply) :=
  match s.values with
  | v :: rest => .ok (v, { s with values := rest })
  | [] => .error .tooFew

/-- Look a name up. Its value is the next one, and the only one. -/
def lookUp (s : Supply) (name : String) : Except FillProblem Supply :=
  match s.table with
  | none => .error .needsName
  | some entries =>
    match entries.lookup name with
    | some v => .ok { s with values := [v] }
    | none => .error (.unknownName name)

/-- Nothing is left that has to be taken. -/
def isSpent (s : Supply) : Bool :=
  s.table.isSome || s.values.isEmpty

end Supply

/-! ## Placeholders -/

/-- A placeholder. -/
structure Placeholder where
  flags : List Char
  /-- The text stands at the left of its width. -/
  left : Bool
  width : Nat
  precision : Option Nat
  letter : Char
  /-- Where its letter stands, counted from behind the percent sign. -/
  index : Nat

/-- The whole number that a value is. -/
def integerOf? : Value → Option Int
  | .int n => some n
  | .bool b => some (if b then 1 else 0)
  | _ => none

/-- How many characters a name has, up to the parenthesis that closes it; `depth` others are open. -/
def nameLength? : Nat → List Char → Option Nat
  | _, [] => none
  | depth, ')' :: rest =>
    match depth with
    | 0 => some 0
    | depth + 1 => (nameLength? depth rest).map (· + 1)
  | depth, c :: rest => (nameLength? (if c = '(' then depth + 1 else depth) rest).map (· + 1)

/-- Look up the name in parentheses at the front, if there is one; what follows it. -/
def leadingName (s : Supply) (cs : List Char) : Except FillProblem (Supply × List Char) := do
  match cs with
  | '(' :: rest =>
    if s.table.isNone then throw .needsName
    match nameLength? 0 rest with
    | none => throw .incompleteName
    | some n => return (← s.lookUp (String.ofList (rest.take n)), rest.drop (n + 1))
  | _ => return (s, cs)

/-- The count at the front, if there is one: digits, or a star for the next value; what follows it. -/
def leadingCount (s : Supply) (cs : List Char) :
    Except FillProblem (Option Int × Supply × List Char) := do
  match cs with
  | '*' :: rest =>
    let (v, s) ← s.take
    match integerOf? v with
    | some n => return (some n, s, rest)
    | none => throw .needsCount
  | _ =>
    let digits := cs.takeWhile Char.isDigit
    let n := Text.ofDigits (digits.map fun c => c.toNat - '0'.toNat)
    return (if digits.isEmpty then none else some (n : Int), s, cs.drop digits.length)

/-- The precision at the front, if there is one; a precision below zero, or none behind the point, is
zero. -/
def leadingPrecision (s : Supply) (cs : List Char) :
    Except FillProblem (Option Nat × Supply × List Char) := do
  match cs with
  | '.' :: rest =>
    let (n, s, rest) ← leadingCount s rest
    return (some ((n.getD 0).toNat), s, rest)
  | _ => return (none, s, cs)

/-- A mark of the size of a number, which means nothing. -/
def dropSize : List Char → List Char
  | c :: rest => if ['h', 'l', 'L'].contains c then rest else c :: rest
  | [] => []

/-- Widths are smaller than this. -/
def widthBound : Nat := Nat.pow 2 63

/-- Precisions are smaller than this. -/
def precisionBound : Nat := Nat.pow 2 31

/-- The placeholder behind a percent sign, how many characters it takes there, and the values that are
left for it. -/
def placeholder (s : Supply) (cs : List Char) : Except FillProblem (Placeholder × Nat × Supply) := do
  let (s, rest) ← leadingName s cs
  let flags := rest.takeWhile ['-', '+', ' ', '#', '0'].contains
  let (count, s, rest) ← leadingCount s (rest.drop flags.length)
  let width := count.getD 0
  if widthBound ≤ width.natAbs then throw .tooWide
  let (precision, s, rest) ← leadingPrecision s rest
  if precision.any (precisionBound ≤ ·) then throw .tooPrecise
  match dropSize rest with
  | [] => throw .incomplete
  | letter :: rest =>
    let taken := cs.length - rest.length
    return ({ flags, left := flags.contains '-' || width < 0, width := width.natAbs, precision, letter,
              index := taken - 1 }, taken, s)

/-! ## Values -/

namespace Placeholder

/-- A text filled up with blanks to the width. -/
def pad (p : Placeholder) (text : List Char) : List Char :=
  let blanks := List.replicate (p.width - text.length) ' '
  if p.left then text ++ blanks else blanks ++ text

/-- A text cut at the precision and filled up. -/
def fillText (p : Placeholder) (text : String) : List Char :=
  p.pad (match p.precision with
    | some n => text.toList.take n
    | none => text.toList)

/-- The sign of a number. -/
def signOf (p : Placeholder) (negative : Bool) : List Char :=
  if negative then ['-']
  else if p.flags.contains '+' then ['+']
  else if p.flags.contains ' ' then [' ']
  else []

/-- A number filled up to the width: with zeros behind what stands in front of it, or with blanks. -/
def fillFront (p : Placeholder) (front digits : List Char) : List Char :=
  if p.flags.contains '0' && !p.left then
    front ++ List.replicate (p.width - front.length - digits.length) '0' ++ digits
  else p.pad (front ++ digits)

/-- A number in a base, with a mark of the base if there is one. -/
def fillNumber (p : Placeholder) (base : Nat) (mark : List Char) (n : Int) : List Char :=
  let digits := Nat.toDigits base n.natAbs
  let digits := List.replicate (p.precision.getD 0 - digits.length) '0' ++ digits
  p.fillFront (p.signOf (n < 0) ++ (if p.flags.contains '#' then mark else [])) digits

/-- A number in decimal digits, unless it has too many of them. -/
def fillDecimal (p : Placeholder) (n : Int) : Except FillProblem (List Char) :=
  if Text.oversized n then .error (.numeral .oversized) else .ok (p.fillNumber 10 [] n)

/-- A decimal in a form; without a precision it has six digits. -/
def fillForm (p : Placeholder) (form : Double.Form) (x : Double) : List Char :=
  let text := x.textWith form (p.precision.getD 6) (p.flags.contains '#')
  let negative := text.head? = some '-'
  p.fillFront (p.signOf negative) (if negative then text.drop 1 else text)

/-- The integer of a value, toward zero. -/
def truncated (p : Placeholder) (v : Value) : Except FillProblem Int :=
  match v with
  | .float (.finite negative mantissa exponent) =>
    let size := if 0 ≤ exponent then mantissa * Nat.pow 2 exponent.toNat
      else mantissa / Nat.pow 2 (-exponent).toNat
    .ok (if negative then -(size : Int) else size)
  | .float (.infinite _) => .error .infinite
  | .float .nan => .error .notANumber
  | _ =>
    match integerOf? v with
    | some n => .ok n
    | none => .error (.needsNumber p.letter v.shortTypeName)

/-- The integer that a value is. -/
def exactInteger (p : Placeholder) (v : Value) : Except FillProblem Int :=
  match integerOf? v with
  | some n => .ok n
  | none => .error (.needsInteger p.letter v.shortTypeName)

/-- The decimal of a value. -/
def decimalOf (v : Value) : Except FillProblem Double :=
  match v with
  | .float x => .ok x
  | _ =>
    match integerOf? v with
    | some n =>
      match Double.ofFraction (n < 0) n.natAbs 1 with
      | .infinite _ => .error .integerTooLarge
      | x => .ok x
    | none => .error (.needsDecimal v.shortTypeName)

/-- The character that a value is. -/
def charOf (v : Value) : Except FillProblem Char :=
  match v with
  | .str s =>
    match s.toList with
    | [c] => .ok c
    | _ => .error .needsChar
  | _ =>
    match integerOf? v with
    | some n =>
      if 0 ≤ n && n.toNat.isValidChar then .ok (Char.ofNat n.toNat) else .error .charOutOfRange
    | none => .error .needsChar

/-- A character as ASCII shows it. -/
def asciiChar (c : Char) : List Char :=
  if c.toNat < 0x80 then [c]
  else if c.toNat < 0x100 then '\\' :: 'x' :: Text.hex 2 c.toNat
  else if c.toNat < 0x10000 then '\\' :: 'u' :: Text.hex 4 c.toNat
  else '\\' :: 'U' :: Text.hex 8 c.toNat

/-- A value in the form that the placeholder asks for. -/
def fill (p : Placeholder) (start : Nat) (v : Value) : Except FillProblem (List Char) :=
  match p.letter with
  | 's' => return p.fillText (← v.text.mapError .numeral)
  | 'r' => return p.fillText (← v.display.mapError .numeral)
  | 'a' => do
    let shown ← v.display.mapError .numeral
    return p.fillText (String.ofList (shown.toList.flatMap asciiChar))
  | 'd' | 'i' | 'u' => do p.fillDecimal (← p.truncated v)
  | 'x' => return p.fillNumber 16 ['0', 'x'] (← p.exactInteger v)
  | 'X' => return (p.fillNumber 16 ['0', 'x'] (← p.exactInteger v)).map Char.toUpper
  | 'o' => return p.fillNumber 8 ['0', 'o'] (← p.exactInteger v)
  | 'f' => return p.fillForm .places (← decimalOf v)
  | 'e' => return p.fillForm .power (← decimalOf v)
  | 'g' => return p.fillForm .suited (← decimalOf v)
  | 'F' => return (p.fillForm .places (← decimalOf v)).map Char.toUpper
  | 'E' => return (p.fillForm .power (← decimalOf v)).map Char.toUpper
  | 'G' => return (p.fillForm .suited (← decimalOf v)).map Char.toUpper
  | 'c' => return p.pad [← charOf v]
  | letter => .error (.unsupported letter (start + p.index))

end Placeholder

/-! ## Filling in -/

/-- Fill in a text that begins at a position of the whole text. -/
def fillFrom (position : Nat) (s : Supply) : List Char → Except FillProblem (List Char)
  | [] => if s.isSpent then .ok [] else .error .tooMany
  | c :: rest =>
    if c ≠ '%' then (fillFrom (position + 1) s rest).map (c :: ·)
    else do
      let (p, taken, s) ← placeholder s rest
      let after := rest.drop taken
      if p.letter = '%' then return '%' :: (← fillFrom (position + taken + 1) s after)
      let (v, s) ← s.take
      return (← p.fill (position + 1) v) ++ (← fillFrom (position + taken + 1) s after)
termination_by cs => cs.length

/-- A text with its placeholders filled in. -/
def fillIn (text : String) (s : Supply) : Except FillProblem String :=
  (fillFrom 0 s text.toList).map String.ofList

end WordLint
