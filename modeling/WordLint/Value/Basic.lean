import WordLint.Decimal.Shortest
import WordLint.Rule.Options
import WordLint.Text.Blank
import WordLint.Value.Calendar

/-!
# Values

What a configuration holds: the values of a data format and those that a host program may hand over. A
dictionary keeps its entries in the order of insertion, and no two of its keys are the same.

Lists and dictionaries may contain themselves. A value is still a finite tree: where a container occurs
inside itself stands `up n`, which means the container `n` levels further out, counted from the
innermost list or dictionary around.
-/

namespace WordLint

/-- A value. -/
inductive Value where
  | none
  | bool (b : Bool)
  | int (n : Int)
  | float (x : Double)
  | str (s : String)
  | bytes (bs : List Nat)
  | list (items : List Value)
  | tuple (items : List Value)
  | set (items : List Value)
  | dict (entries : List (Value × Value))
  /-- A mapping seen through a window: it can be read and not be changed. What is behind the window is a
  dictionary, or another window on one. -/
  | view (mapping : Value)
  | options (o : Options)
  | date (d : Date)
  | moment (d : Date) (t : Time)
  | time (t : Time)
  /-- An enclosing list or dictionary, 0 the innermost. -/
  | up (n : Nat)
deriving Repr

namespace Value

/-- The string that a value is. -/
def str? : Value → Option String
  | .str s => some s
  | _ => Option.none

/-- The entries of a value that maps keys to values: a dictionary, or a window on such a value. -/
def entries? : Value → Option (List (Value × Value))
  | .dict es => some es
  | .view v => v.entries?
  | _ => Option.none

/-- What is behind all windows. -/
def behind : Value → Value
  | .view v => v.behind
  | v => v

/-- The items of a list or tuple. -/
def items? : Value → Option (List Value)
  | .list xs | .tuple xs => some xs
  | _ => Option.none

/-- A value that counts as true. Numbers count as false when they are zero, and everything that has a
size when it is empty. -/
def truthy : Value → Bool
  | .none => false
  | .bool b => b
  | .int n => n ≠ 0
  | .float x => !x.isZero
  | .str s => !s.isEmpty
  | .bytes bs => !bs.isEmpty
  | .list xs | .tuple xs | .set xs => !xs.isEmpty
  | .dict es => !es.isEmpty
  | .view v => v.truthy
  | .options _ | .date _ | .moment .. | .time _ | .up _ => true

/-! ## Keys -/

mutual

/-- Two keys are the same. Numbers are compared by their value, truth values among them. -/
def sameKey : Value → Value → Bool
  | .none, .none => true
  | .bool a, .bool b => a == b
  | .bool a, .int n | .int n, .bool a => n == if a then 1 else 0
  | .int a, .int b => a == b
  | .float x, .float y => x.equal y
  | .float x, .int n | .int n, .float x => x.isInt n
  | .float x, .bool a | .bool a, .float x => x.isInt (if a then 1 else 0)
  | .str a, .str b => a == b
  | .bytes a, .bytes b => a == b
  | .tuple xs, .tuple ys => sameKeys xs ys
  | .options a, .options b => a == b
  | .date a, .date b => a == b
  | .moment d t, .moment d' t' => d == d' && t == t'
  | .time a, .time b => a == b
  | _, _ => false

/-- Two lists of keys are the same. -/
def sameKeys : List Value → List Value → Bool
  | [], [] => true
  | x :: xs, y :: ys => sameKey x y && sameKeys xs ys
  | _, _ => false

end

/-- Set the value of a key: in its place when it is there, otherwise at the end. -/
def insertEntry (key value : Value) : List (Value × Value) → List (Value × Value)
  | [] => [(key, value)]
  | (k, v) :: rest => if k.sameKey key then (k, value) :: rest else (k, v) :: insertEntry key value rest

/-- The dictionary entries that result from setting keys one after the other. -/
def entriesOf (pairs : List (Value × Value)) : List (Value × Value) :=
  pairs.foldl (fun es p => insertEntry p.1 p.2 es) []

/-- The value of a textual key. -/
def lookup? (key : String) : List (Value × Value) → Option Value
  | [] => Option.none
  | (k, v) :: rest => if k.sameKey (.str key) then some v else lookup? key rest

/-- Options as a dictionary: the groups that are there, with their patterns. -/
def ofOptions (o : Options) : List (Value × Value) :=
  o.groups.map fun g => (.str g.1.key, .list (g.2.map .str))

end Value

end WordLint
