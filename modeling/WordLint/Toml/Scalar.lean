import WordLint.Text.Numeral
import WordLint.Toml.Quote
import WordLint.Value.Basic

/-!
# Numbers, dates and truth values of a TOML document

A scalar without quotes is given as the characters of its whole text. A negative number is zero less
what follows its sign, so negative zero is zero. The fraction of a time alone is a number of
microseconds of three to six digits; that of a date with a time is a part of a second.

The places of underscores and leading zeros count for the value of a key, and do not for an item of an
array.
-/

namespace WordLint.Toml

/-! ## Numbers -/

/-- A digit of a base up to sixteen. -/
def isDigitOf (base : Nat) (c : Char) : Bool :=
  match hexNumber? [c] with
  | some n => n < base
  | none => false

/-- The number with these digits in a base. -/
def numberOf (base : Nat) (cs : List Char) : Nat :=
  cs.foldl (fun n c => base * n + (hexNumber? [c]).getD 0) 0

/-- Two characters stand next to each other. -/
def hasPair (a b : Char) (cs : List Char) : Bool :=
  (cs.zip cs.tail).contains (a, b)

/-- Every underscore stands between digits. -/
def wellGrouped (cs : List Char) : Bool :=
  cs.head? ≠ some '_' && cs.getLast? ≠ some '_' && !hasPair '_' '_' cs && !hasPair '_' '.' cs &&
    !hasPair '.' '_' cs

/-- A leading zero is followed by a point, or marks the base of a number that has no sign. -/
def wellLed (cs : List Char) : Bool :=
  match cs with
  | '0' :: c :: _ => ['.', 'x', 'o', 'b'].contains c
  | '+' :: '0' :: c :: _ | '-' :: '0' :: c :: _ => c == '.'
  | _ => true

/-- Digits of a base, at least one. -/
def digits? (base : Nat) (cs : List Char) : Option Nat :=
  if cs.isEmpty || !cs.all (isDigitOf base) then none else some (numberOf base cs)

/-- A whole number without a sign: decimal without leading zeros, or with a mark of its base. -/
def natural? (cs : List Char) : Option Nat :=
  match cs with
  | '0' :: 'x' :: rest => digits? 16 rest
  | '0' :: 'o' :: rest => digits? 8 rest
  | '0' :: 'b' :: rest => digits? 2 rest
  | _ =>
    if cs.head? = some '0' && cs.any (· ≠ '0') || Text.maxDigits < cs.length then none
    else digits? 10 cs

/-- The exponent of a number: `e`, perhaps a sign, and digits. -/
def exponent? : List Char → Option Int
  | [] => some 0
  | c :: rest => do
    if c ≠ 'e' && c ≠ 'E' then none
    let (negative, digits) := Text.splitSign rest
    let n : Int ← digits? 10 digits
    return if negative then -n else n

/-- A number with a fraction or an exponent, or one of the names, without a sign. -/
def fractional? (cs : List Char) : Option Double := do
  if cs = ['i', 'n', 'f'] then return .infinite false
  if cs = ['n', 'a', 'n'] then return .nan
  let whole := cs.takeWhile Char.isDigit
  if whole.isEmpty then none
  match cs.dropWhile Char.isDigit with
  | '.' :: rest =>
    if rest.isEmpty then none
    let fraction := rest.takeWhile Char.isDigit
    let power ← exponent? (rest.dropWhile Char.isDigit)
    return .ofDecimal false (numberOf 10 (whole ++ fraction)) (power - fraction.length)
  | [] => none
  | rest => return .ofDecimal false (numberOf 10 whole) (← exponent? rest)

/-- Zero less a number. -/
def zeroLess (x : Double) : Double :=
  if x.isZero then .zero false else if x = .nan then .nan else x.negate

/-- A number; `strict` where the places of underscores and leading zeros count. -/
def number? (strict : Bool) (cs : List Char) : Option Value :=
  if strict && !(wellGrouped cs && wellLed cs) then none
  else
    let (negative, body) := Text.splitSign cs
    let body := body.filter (· ≠ '_')
    match natural? body with
    | some n => some (.int (if negative then -(n : Int) else n))
    | none => (fractional? body).map fun x => .float (if negative then zeroLess x else x)

/-! ## Dates and times -/

/-- Hours, minutes and seconds at the front. -/
def clock? (cs : List Char) : Option ((Nat × Nat × Nat) × List Char) := do
  let (h, cs) ← readNumber? 2 cs
  let (m, cs) ← readNumber? 2 (← readMark? ':' cs)
  let (s, cs) ← readNumber? 2 (← readMark? ':' cs)
  return ((h, m, s), cs)

/-- The digits behind a point at the front; no point, no digits. -/
def fraction? (cs : List Char) : Option (List Char × List Char) :=
  match cs with
  | '.' :: rest =>
    let digits := rest.takeWhile Char.isDigit
    if digits.isEmpty then none else some (digits, rest.drop digits.length)
  | _ => some ([], cs)

/-- The microseconds of a time alone: a number of three to six digits, of which more are left out and
fewer count for nothing. -/
def plainMicroseconds (digits : List Char) : Nat :=
  if digits.length < 3 then 0 else numberOf 10 (digits.take 6)

/-- The microseconds of a part of a second. -/
def microseconds (digits : List Char) : Nat :=
  numberOf 10 (digits.take 6) * Nat.pow 10 (6 - digits.length)

/-- A zone behind a time. -/
def zone? (cs : List Char) : Option (Option Int) :=
  match cs with
  | [] => some none
  | ['Z'] => some (some 0)
  | sign :: rest => do
    if sign ≠ '+' && sign ≠ '-' then none
    let (h, rest) ← readNumber? 2 rest
    let (m, rest) ← readNumber? 2 (← readMark? ':' rest)
    if !rest.isEmpty then none
    let n : Int := h * 3600 + m * 60
    return some (if sign = '-' then -n else n)

/-- A time alone. -/
def time? (cs : List Char) : Option Value := do
  let ((h, m, s), rest) ← clock? cs
  let (fraction, rest) ← fraction? rest
  if !rest.isEmpty then none
  let t : Time := ⟨h, m, s, plainMicroseconds fraction, none⟩
  if t.valid then some (.time t) else none

/-- A date, or a date with a time. -/
def dated? (cs : List Char) : Option Value := do
  let (d, rest) ← readDate? cs
  if !d.valid then none
  match rest with
  | [] => some (.date d)
  | mark :: rest =>
    if mark ≠ 'T' && mark ≠ 't' && mark ≠ ' ' then none
    let ((h, m, s), rest) ← clock? rest
    let (fraction, rest) ← fraction? rest
    let t : Time := ⟨h, m, s, microseconds fraction, ← zone? rest⟩
    if t.valid then some (.moment d t) else none

/-- A scalar without quotes; `strict` for the value of a key. -/
def scalar? (strict : Bool) (cs : List Char) : Option Value :=
  if cs = ['t', 'r', 'u', 'e'] then some (.bool true)
  else if cs = ['f', 'a', 'l', 's', 'e'] then some (.bool false)
  else time? cs <|> dated? cs <|> number? strict cs

end WordLint.Toml
