/-!
# Floating-point numbers

A `Double` is a number with at most 53 binary digits, as an exact fraction: sign, mantissa and power of
two. A decimal number denotes the nearest double, and of two equally near ones the one with an even
mantissa. All arithmetic is exact arithmetic on natural numbers.
-/

namespace WordLint

/-- A floating-point number. A finite one is its mantissa times a power of two. -/
inductive Double where
  | nan
  | infinite (negative : Bool)
  | finite (negative : Bool) (mantissa : Nat) (exponent : Int)
deriving Repr, DecidableEq

namespace Double

/-- Mantissas are smaller than this. -/
def mantissaBound : Nat := Nat.pow 2 53

/-- The least power of two of a finite number. -/
def leastExponent : Int := -1074

/-- The greatest power of two of a finite number. -/
def greatestExponent : Int := 971

/-- Zero, with a sign. -/
def zero (negative : Bool) : Double := .finite negative 0 leastExponent

/-- A quotient rounded to the nearest number, a tie to the even one. -/
def roundHalfEven (num den : Nat) : Nat :=
  let q := num / den
  let twice := 2 * (num % den)
  if twice < den then q
  else if den < twice then q + 1
  else q + q % 2

/-- A fraction measured in a power of two, as a fraction again. -/
def measuredIn (exponent : Int) (num den : Nat) : Nat × Nat :=
  if 0 ≤ exponent then (num, den * Nat.pow 2 exponent.toNat) else (num * Nat.pow 2 (-exponent).toNat, den)

/-- The power of two that the mantissa of a positive fraction is measured in. -/
def exponentOf (num den : Nat) : Int :=
  let estimate := max ((num.log2 : Int) - den.log2 - 53) leastExponent
  let (n, d) := measuredIn estimate num den
  if n / d < mantissaBound then estimate else estimate + 1

/-- The double nearest to a fraction. -/
def ofFraction (negative : Bool) (num den : Nat) : Double :=
  if num = 0 then zero negative
  else
    let exponent := exponentOf num den
    let (n, d) := measuredIn exponent num den
    let mantissa := roundHalfEven n d
    let (mantissa, exponent) :=
      if mantissa = mantissaBound then (mantissaBound / 2, exponent + 1) else (mantissa, exponent)
    if greatestExponent < exponent then .infinite negative else .finite negative mantissa exponent

/-- Decimal exponents beyond this are never needed. -/
def decimalBound : Nat := 400

/-- The double nearest to `digits` times a power of ten. -/
def ofDecimal (negative : Bool) (digits : Nat) (exponent : Int) : Double :=
  let magnitude := (Nat.toDigits 10 digits).length + exponent
  if digits = 0 || magnitude < -decimalBound then zero negative
  else if decimalBound < magnitude then .infinite negative
  else if 0 ≤ exponent then ofFraction negative (digits * Nat.pow 10 exponent.toNat) 1
  else ofFraction negative digits (Nat.pow 10 (-exponent).toNat)

/-- Positive or negative zero. -/
def isZero : Double → Bool
  | .finite _ m _ => m == 0
  | _ => false

/-- The double is this integer. -/
def isInt (n : Int) : Double → Bool
  | .finite negative m e =>
    let m' : Int := if negative then -m else m
    if 0 ≤ e then m' * Nat.pow 2 e.toNat == n else m' == n * Nat.pow 2 (-e).toNat
  | _ => false

/-- The number with the sign turned. -/
def negate : Double → Double
  | .nan => .nan
  | .infinite negative => .infinite (!negative)
  | .finite negative m e => .finite (!negative) m e

/-- Comparison: zeros are equal whatever their sign, and not-a-number equals nothing. -/
def equal : Double → Double → Bool
  | .nan, _ => false
  | .finite n m e, .finite n' m' e' => (m == 0 && m' == 0) || (n == n' && m == m' && e == e')
  | a, b => decide (a = b)

/-! ## Reading -/

/-- The number with these decimal digits. -/
def ofDigits (cs : List Char) : Nat :=
  cs.foldl (fun n c => 10 * n + (c.toNat - '0'.toNat)) 0

/-- The exponent of a decimal: `e`, a sign perhaps, and digits; nothing stands for 0. -/
def readExponent? : List Char → Option Int
  | [] => some 0
  | c :: rest =>
    if c = 'e' || c = 'E' then
      let (negative, digits) := match rest with
        | '-' :: ds => (true, ds)
        | '+' :: ds => (false, ds)
        | ds => (false, ds)
      if digits.isEmpty || !digits.all Char.isDigit then none
      else some (if negative then -(ofDigits digits : Int) else ofDigits digits)
    else none

/-- The double that a decimal without a sign denotes: digits, a point and digits, an exponent. -/
def readUnsigned? (negative : Bool) (cs : List Char) : Option Double := do
  let whole := cs.takeWhile Char.isDigit
  let rest := cs.drop whole.length
  let (fraction, rest) := match rest with
    | '.' :: more => (more.takeWhile Char.isDigit, more.dropWhile Char.isDigit)
    | more => ([], more)
  if whole.isEmpty && fraction.isEmpty then none
  let exponent ← readExponent? rest
  return ofDecimal negative (ofDigits (whole ++ fraction)) (exponent - fraction.length)

/-- The double that a text denotes: a decimal, `inf` or `nan`, with a sign perhaps. -/
def read? (cs : List Char) : Option Double :=
  let (negative, body) := match cs with
    | '-' :: rest => (true, rest)
    | '+' :: rest => (false, rest)
    | rest => (false, rest)
  if body = ['i', 'n', 'f'] then some (.infinite negative)
  else if body = ['n', 'a', 'n'] then some .nan
  else readUnsigned? negative body

end Double

end WordLint
