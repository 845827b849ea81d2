import WordLint.Value.Display
import WordLint.Value.Place

/-!
# Values as compact JSON

A value is written as JSON without blanks, with characters outside ASCII as they are. What JSON has no
form for is written as a string that shows the value; tuples are written as arrays, and keys that are
numbers, truth values or null as strings. Some values have no JSON form at all: those with other keys,
those that contain themselves, and integers with too many digits.

`Value.serialize` falls back on the text of the whole value where there is no JSON form.
-/

namespace WordLint.Json

/-- A character inside a JSON string. -/
def escaped (c : Char) : List Char :=
  if c = '"' || c = '\\' then ['\\', c]
  else if c = '\n' then ['\\', 'n']
  else if c = '\r' then ['\\', 'r']
  else if c = '\t' then ['\\', 't']
  else if c.toNat = 8 then ['\\', 'b']
  else if c.toNat = 12 then ['\\', 'f']
  else if c.toNat < 0x20 then '\\' :: 'u' :: Text.hex 4 c.toNat
  else [c]

/-- A JSON string. -/
def string (s : String) : List Char :=
  '"' :: s.toList.flatMap escaped ++ ['"']

/-- Texts with commas between them. -/
def commas (texts : List (List Char)) : List Char :=
  [','].intercalate texts

/-- A number of the floating-point format; the three that are no decimals have names. -/
def float : Double → List Char
  | .nan => ['N', 'a', 'N']
  | .infinite negative => Double.sign negative ++ ['I', 'n', 'f', 'i', 'n', 'i', 't', 'y']
  | x => x.text

/-- An integer. -/
def integer? (n : Int) : Option (List Char) :=
  if Text.oversized n then none else some (toString n).toList

/-- A truth value. -/
def truth (b : Bool) : List Char :=
  if b then ['t', 'r', 'u', 'e'] else ['f', 'a', 'l', 's', 'e']

/-- Null. -/
def null : List Char := ['n', 'u', 'l', 'l']

/-- The text that a key becomes. -/
def key? : Value → Option (List Char)
  | .str s => some s.toList
  | .float x => some (float x)
  | .bool b => some (truth b)
  | .none => some null
  | .int n => integer? n
  | _ => none

/-- A value that is written as a string of its text. -/
def shown? (v : Value) : Option (List Char) :=
  match v.text with
  | .ok s => some (string s)
  | .error _ => none

mutual

/-- The JSON form of a value, given the containers around it and its route. -/
def write? (around : List Container) (route : Route) : Value → Option (List Char)
  | .none => some null
  | .bool b => some (truth b)
  | .int n => integer? n
  | .float x => some (float x)
  | .str s => some (string s)
  | .list xs => do
    let items ← writeItems? (⟨route, .list xs⟩ :: around) route 0 xs
    return '[' :: commas items ++ [']']
  | .tuple xs => do return '[' :: commas (← writeItems? around route 0 xs) ++ [']']
  | .dict es => do
    let entries ← writeEntries? (⟨route, .dict es⟩ :: around) route 0 es
    return '\x7b' :: commas entries ++ ['\x7d']
  | .up _ => none
  | .view v => shown? (Place.detach ⟨around, route, .view v⟩)
  | v => shown? v

/-- The JSON forms of items, the first of which has the number `i`. -/
def writeItems? (around : List Container) (route : Route) (i : Nat) :
    List Value → Option (List (List Char))
  | [] => some []
  | x :: xs => do
    return (← write? around (i :: route) x) :: (← writeItems? around route (i + 1) xs)

/-- The JSON forms of entries, the first of which has the number `i`. -/
def writeEntries? (around : List Container) (route : Route) (i : Nat) :
    List (Value × Value) → Option (List (List Char))
  | [] => some []
  | (k, v) :: es => do
    let key := '"' :: (← key? k).flatMap escaped ++ ['"']
    let value ← write? around (i :: route) v
    return (key ++ ':' :: value) :: (← writeEntries? around route (i + 1) es)

end

end WordLint.Json

namespace WordLint

/-- The compact JSON form of a value, or its text where it has none. -/
def Value.serialize (v : Value) : Except Text.NumeralError String :=
  match Json.write? [] [] v with
  | .some cs => .ok (String.ofList cs)
  | .none => v.text

end WordLint
