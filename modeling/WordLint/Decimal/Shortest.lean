import WordLint.Decimal.Double

/-!
# The shortest decimal

A double is written with the fewest significant digits that denote it again, and of the decimals with
that many digits the nearest. The decimals that denote a double fill an interval around it, halfway to
its neighbours, ends included when the mantissa is even. For each number of digits the two decimals
next to the double are tried.
-/

namespace WordLint.Double

/-- A decimal: its digits, and the power of ten of the last one. -/
structure Digits where
  digits : Nat
  exponent : Int
deriving Repr, DecidableEq

/-- The interval of decimals that denote a number, over one denominator: the number is `mid / den`, and
the interval reaches from `low / den` to `high / den`. -/
structure Interval where
  low : Nat
  mid : Nat
  high : Nat
  den : Nat
  closed : Bool

/-- The interval of a finite number. Below a power of two the neighbours are twice as dense. -/
def intervalOf (mantissa : Nat) (exponent : Int) : Interval :=
  let dense := mantissa = mantissaBound / 2 && leastExponent < exponent
  -- A quarter of the mantissa's unit is `unit / den`, so that all three bounds are whole.
  let (unit, den) := measuredIn (2 - exponent) 1 1
  { low := (4 * mantissa - if dense then 1 else 2) * unit, mid := 4 * mantissa * unit,
    high := (4 * mantissa + 2) * unit, den := den, closed := mantissa % 2 = 0 }

/-- The power of ten of the first digit of a positive fraction. -/
def magnitude (num den : Nat) : Int :=
  let estimate : Int := (Nat.toDigits 10 num).length - (Nat.toDigits 10 den).length
  let reached := if 0 ≤ estimate then den * Nat.pow 10 estimate.toNat ≤ num
    else den ≤ num * Nat.pow 10 (-estimate).toNat
  if reached then estimate else estimate - 1

/-- A decimal lies in the interval. -/
def Interval.holds (i : Interval) (d : Digits) : Bool :=
  let (n, m) := if 0 ≤ d.exponent then (d.digits * Nat.pow 10 d.exponent.toNat * i.den, 1)
    else (d.digits * i.den, Nat.pow 10 (-d.exponent).toNat)
  if i.closed then i.low * m ≤ n && n ≤ i.high * m else i.low * m < n && n < i.high * m

/-- The two decimals of a grid next to the number, the nearer first; a tie goes to the even one. -/
def Interval.nextTo (i : Interval) (exponent : Int) : List Digits :=
  let (num, den) := if 0 ≤ exponent then (i.mid, i.den * Nat.pow 10 exponent.toNat)
    else (i.mid * Nat.pow 10 (-exponent).toNat, i.den)
  let below : Digits := ⟨num / den, exponent⟩
  let above : Digits := ⟨num / den + 1, exponent⟩
  let twice := 2 * (num % den)
  if twice < den || (twice = den && below.digits % 2 = 0) then [below, above] else [above, below]

/-- The first decimal of the interval on the grids of `count`, `count + 1`, … digits, when the first
digit stands at the power of ten `top`. -/
def Interval.shortestFrom (i : Interval) (top : Int) : Nat → Nat → Digits
  | 0, count => ((i.nextTo (top - count + 1)).head?).getD ⟨0, 0⟩
  | fuel + 1, count =>
    match (i.nextTo (top - count + 1)).find? i.holds with
    | some d => d
    | none => i.shortestFrom top fuel (count + 1)

/-- The shortest decimal of a positive finite number; seventeen digits are always enough. -/
def shortest (mantissa : Nat) (exponent : Int) : Digits :=
  let i := intervalOf mantissa exponent
  i.shortestFrom (magnitude i.mid i.den) 17 1

/-! ## Writing -/

/-- Exponents of the first digit from which decimals are written with a power of ten. -/
def positionalEnd : Int := 16

/-- Exponents of the first digit below which decimals are written with a power of ten. -/
def positionalStart : Int := -4

/-- The sign of a negative number. -/
def sign (negative : Bool) : List Char :=
  if negative then ['-'] else []

/-- The digits of a decimal without zeros at the end, and the power of ten of the first one. -/
def significant (d : Digits) : List Char × Int :=
  let all := Nat.toDigits 10 d.digits
  ((all.reverse.dropWhile (· == '0')).reverse, d.exponent + all.length - 1)

/-- Digits with the point behind the power of ten 0, and at least one digit on each side of it. -/
def positional (digits : List Char) (top : Int) : List Char :=
  if top < 0 then ['0', '.'] ++ List.replicate (-top - 1).toNat '0' ++ digits
  else
    let places := top.toNat + 1
    let whole := digits.take places ++ List.replicate (places - digits.length) '0'
    let fraction := digits.drop places
    whole ++ '.' :: (if fraction.isEmpty then ['0'] else fraction)

/-- Digits with the point behind the first one, and a power of ten of at least two digits. -/
def scientific (digits : List Char) (top : Int) : List Char :=
  let point := if digits.length ≤ 1 then [] else ['.']
  let power := Nat.toDigits 10 top.natAbs
  let padding := List.replicate (2 - power.length) '0'
  digits.take 1 ++ point ++ digits.drop 1 ++
    'e' :: (if top < 0 then '-' else '+') :: padding ++ power

/-- A double as text. -/
def text : Double → List Char
  | .nan => ['n', 'a', 'n']
  | .infinite negative => sign negative ++ ['i', 'n', 'f']
  | .finite negative m e =>
    if m = 0 then sign negative ++ ['0', '.', '0']
    else
      let (digits, top) := significant (shortest m e)
      sign negative ++
        if positionalStart ≤ top && top < positionalEnd then positional digits top
        else scientific digits top

end WordLint.Double
