import WordLint.Decimal.Shortest

/-!
# Decimals with a given precision

A number is rounded to some places behind the point or to some significant digits, a tie to the even
digit. It is written with places, with a power of ten, or in the form that suits it: with a power of ten
when the first digit stands far from the point, and without the zeros at the end.
-/

namespace WordLint.Double

/-- The ways to write a number with a precision. -/
inductive Form where
  /-- With that many places. -/
  | places
  /-- With that many places behind the first digit, and a power of ten. -/
  | power
  /-- With that many significant digits, in the form that suits them. -/
  | suited
deriving Repr, DecidableEq

/-- A fraction measured in a power of ten and rounded. -/
def roundedAt (place : Int) (num den : Nat) : Nat :=
  if 0 ≤ place then roundHalfEven num (den * Nat.pow 10 place.toNat)
  else roundHalfEven (num * Nat.pow 10 (-place).toNat) den

/-- A fraction rounded to `count` significant digits, and the power of ten of the first one. Zero has only
zeros. -/
def roundedTo (count num den : Nat) : Nat × Int :=
  if num = 0 then (0, 0)
  else
    let top := magnitude num den
    let n := roundedAt (top - count + 1) num den
    if n = Nat.pow 10 count then (n / 10, top + 1) else (n, top)

/-- The digits of a number, filled with zeros up to a width. -/
def filled (width n : Nat) : List Char :=
  let digits := Nat.toDigits 10 n
  List.replicate (width - digits.length) '0' ++ digits

/-- Digits with the point before the last `places`; without places the point is there only when it is
to be kept. -/
def pointed (keepPoint : Bool) (places : Nat) (digits : List Char) : List Char :=
  let whole := digits.take (digits.length - places)
  let fraction := digits.drop (digits.length - places)
  whole ++ (if fraction.isEmpty && !keepPoint then [] else ['.']) ++ fraction

/-- A power of ten of at least two digits. -/
def powerText (top : Int) : List Char :=
  'e' :: (if top < 0 then '-' else '+') :: filled 2 top.natAbs

/-- A text without the zeros at its end and without the point that they leave. -/
def withoutZeros (text : List Char) : List Char :=
  let kept := (text.reverse.dropWhile (· == '0')).reverse
  if kept.getLast? = some '.' then kept.dropLast else kept

/-- A fraction written with `places` places. -/
def placesText (keepPoint : Bool) (places num den : Nat) : List Char :=
  pointed keepPoint places (filled (places + 1) (roundedAt (-places) num den))

/-- A fraction written with `places` places behind its first digit. -/
def powerForm (keepPoint : Bool) (places num den : Nat) : List Char :=
  let (n, top) := roundedTo (places + 1) num den
  pointed keepPoint places (filled (places + 1) n) ++ powerText top

/-- A fraction written with `count` significant digits; with `keep` zeros at the end and the point stay. -/
def suitedText (keep : Bool) (count num den : Nat) : List Char :=
  let (n, top) := roundedTo count num den
  let shortened (text : List Char) : List Char :=
    if !keep && text.contains '.' then withoutZeros text else text
  if top < positionalStart || count ≤ top then
    shortened (pointed keep (count - 1) (filled count n)) ++ powerText top
  else
    let places := (count - 1 - top).toNat
    shortened (pointed keep places (filled (places + 1) n))

/-- A number with a precision. -/
def textWith (form : Form) (precision : Nat) (keepPoint : Bool) : Double → List Char
  | .nan => ['n', 'a', 'n']
  | .infinite negative => sign negative ++ ['i', 'n', 'f']
  | .finite negative mantissa exponent =>
    let (num, den) := measuredIn (-exponent) mantissa 1
    sign negative ++ match form with
      | .places => placesText keepPoint precision num den
      | .power => powerForm keepPoint precision num den
      | .suited => suitedText keepPoint (max precision 1) num den

end WordLint.Double
