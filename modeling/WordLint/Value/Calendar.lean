/-!
# Dates and times

Days of the calendar and times of the day. A time may say how far its zone is ahead of universal time,
in seconds. The plain form is the one of ISO 8601 with a space between date and time; the constructor
form shows the parts of a value, where a time leaves out seconds that are zero.
-/

namespace WordLint

/-- A day. -/
structure Date where
  year : Nat
  month : Nat
  day : Nat
deriving Repr, DecidableEq

/-- A time of the day. -/
structure Time where
  hour : Nat
  minute : Nat
  second : Nat
  microsecond : Nat
  /-- How many seconds the zone is ahead of universal time. -/
  offset : Option Int
deriving Repr, DecidableEq

/-! ## Validity -/

/-- A year with 366 days. -/
def isLeap (year : Nat) : Bool :=
  year % 4 == 0 && (year % 100 != 0 || year % 400 == 0)

/-- The days of a month. -/
def daysOf (year month : Nat) : Nat :=
  if month == 2 then if isLeap year then 29 else 28
  else if [4, 6, 9, 11].contains month then 30 else 31

/-- The parts are a day of the calendar. -/
def Date.valid (d : Date) : Bool :=
  1 ≤ d.year && d.year ≤ 9999 && 1 ≤ d.month && d.month ≤ 12 && 1 ≤ d.day &&
    d.day ≤ daysOf d.year d.month

/-- The parts are a time of the day, and the zone is less than a day away. -/
def Time.valid (t : Time) : Bool :=
  t.hour < 24 && t.minute < 60 && t.second < 60 && t.microsecond < 1000000 &&
    t.offset.all fun o => o.natAbs < 86400

/-! ## Writing -/

/-- A number with at least `width` digits. -/
def padded (width n : Nat) : List Char :=
  let digits := Nat.toDigits 10 n
  List.replicate (width - digits.length) '0' ++ digits

/-- A day as year, month and day. -/
def Date.text (d : Date) : List Char :=
  padded 4 d.year ++ '-' :: padded 2 d.month ++ '-' :: padded 2 d.day

/-- The zone of a time: a sign, hours and minutes, and seconds when there are some. -/
def offsetText (offset : Int) : List Char :=
  let n := offset.natAbs
  let seconds := if n % 60 = 0 then [] else ':' :: padded 2 (n % 60)
  (if offset < 0 then '-' else '+') :: padded 2 (n / 3600) ++ ':' :: padded 2 (n / 60 % 60) ++ seconds

/-- A time as hours, minutes and seconds, with microseconds when there are some, and its zone. -/
def Time.text (t : Time) : List Char :=
  let fraction := if t.microsecond = 0 then [] else '.' :: padded 6 t.microsecond
  padded 2 t.hour ++ ':' :: padded 2 t.minute ++ ':' :: padded 2 t.second ++ fraction ++
    (t.offset.map offsetText).getD []

/-- Numbers with commas between them. -/
def commaNumbers (ns : List Nat) : String :=
  String.intercalate ", " (ns.map fun n => String.ofList (Nat.toDigits 10 n))

/-- The constructor form of a day. -/
def Date.constructorForm (d : Date) : String :=
  s!"datetime.date({commaNumbers [d.year, d.month, d.day]})"

/-- The constructor form of a zone: a duration has whole days, which may be negative, and seconds. -/
def zoneForm (offset : Int) : String :=
  if offset = 0 then "datetime.timezone.utc"
  else
    let days := offset.fdiv 86400
    let seconds := offset.fmod 86400
    let dayPart := if days = 0 then "" else s!"days={days}, "
    s!"datetime.timezone(datetime.timedelta({dayPart}seconds={seconds}))"

/-- The parts of a time in its constructor form. -/
def Time.parts (t : Time) : List Nat :=
  if t.microsecond ≠ 0 then [t.hour, t.minute, t.second, t.microsecond]
  else if t.second ≠ 0 then [t.hour, t.minute, t.second]
  else [t.hour, t.minute]

/-- The zone at the end of a constructor form. -/
def Time.zonePart (t : Time) : String :=
  match t.offset with
  | some o => s!", tzinfo={zoneForm o}"
  | none => ""

/-- The constructor form of a time. -/
def Time.constructorForm (t : Time) : String :=
  s!"datetime.time({commaNumbers t.parts}{t.zonePart})"

/-- A day and a time in the plain form. -/
def momentText (d : Date) (t : Time) : List Char :=
  d.text ++ ' ' :: t.text

/-- The constructor form of a day and a time. -/
def momentForm (d : Date) (t : Time) : String :=
  s!"datetime.datetime({commaNumbers ([d.year, d.month, d.day] ++ t.parts)}{t.zonePart})"

/-! ## Reading the plain form -/

/-- The number that exactly `count` digits at the front denote, and what follows. -/
def readNumber? (count : Nat) (cs : List Char) : Option (Nat × List Char) :=
  let digits := cs.take count
  if digits.length = count && digits.all Char.isDigit then
    some (digits.foldl (fun n c => 10 * n + (c.toNat - '0'.toNat)) 0, cs.drop count)
  else none

/-- One expected character, and what follows. -/
def readMark? (mark : Char) : List Char → Option (List Char)
  | c :: rest => if c = mark then some rest else none
  | [] => none

/-- The day at the front, and what follows. -/
def readDate? (cs : List Char) : Option (Date × List Char) := do
  let (year, cs) ← readNumber? 4 cs
  let (month, cs) ← readNumber? 2 (← readMark? '-' cs)
  let (day, cs) ← readNumber? 2 (← readMark? '-' cs)
  return (⟨year, month, day⟩, cs)

/-- Zones: `Z`, or a sign, hours and minutes; nothing stands for no zone. -/
def readOffset? : List Char → Option (Option Int)
  | [] => some none
  | ['Z'] => some (some 0)
  | sign :: rest => do
    if sign ≠ '+' && sign ≠ '-' then none
    let (hours, rest) ← readNumber? 2 rest
    let (minutes, rest) ← readNumber? 2 (← readMark? ':' rest)
    let (seconds, rest) ← match rest with
      | ':' :: more => readNumber? 2 more
      | more => some (0, more)
    if !rest.isEmpty then none
    let n : Int := hours * 3600 + minutes * 60 + seconds
    return some (if sign = '-' then -n else n)

/-- A time in the plain form, with up to six digits of fraction. -/
def readTime? (cs : List Char) : Option Time := do
  let (hour, cs) ← readNumber? 2 cs
  let (minute, cs) ← readNumber? 2 (← readMark? ':' cs)
  let (second, cs) ← match cs with
    | ':' :: more => readNumber? 2 more
    | more => some (0, more)
  let (fraction, cs) := match cs with
    | '.' :: more => ((more.takeWhile Char.isDigit).take 6, more.dropWhile Char.isDigit)
    | more => ([], more)
  let (micro, _) ← readNumber? 6 (fraction ++ List.replicate (6 - fraction.length) '0')
  return ⟨hour, minute, second, micro, ← readOffset? cs⟩

/-- A day and a time in the plain form, with any one character between them. -/
def readMoment? (cs : List Char) : Option (Date × Time) := do
  let (date, rest) ← readDate? cs
  if rest.isEmpty then return (date, ⟨0, 0, 0, 0, none⟩)
  return (date, ← readTime? (rest.drop 1))

end WordLint
