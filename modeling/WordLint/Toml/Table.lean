import WordLint.Value.Basic

/-!
# Tables under construction

While a document is read, its tables are open: headers and dotted keys add to them. A table that only
exists because a header named a table inside it may still get a header of its own; every other table
gets one at most. A key is set once.
-/

namespace WordLint.Toml

/-- What a key of an open table stands for. -/
inductive Item where
  /-- A value that nothing is added to any more. -/
  | value (v : Value)
  /-- A table; `named` when it can get no header any more. -/
  | table (named : Bool) (entries : List (String × Item))
  /-- Tables under one name, of which the last is open. -/
  | tables (done : List (List (String × Item))) (last : List (String × Item))

/-- The entries of an open table. -/
abbrev Entries := List (String × Item)

/-- Change what a key stands for, or add the key at the end. -/
def alter (key : String) (f : Option Item → Option Item) : Entries → Option Entries
  | [] => (f none).map fun item => [(key, item)]
  | (k, item) :: rest =>
    if k = key then (f (some item)).map fun item => (k, item) :: rest
    else (alter key f rest).map ((k, item) :: ·)

/-- Change the table that a path leads to. Tables on the way that are missing are added, and can get a
header later unless they are `named`. -/
def within (named : Bool) (f : Entries → Option Entries) : List String → Entries → Option Entries
  | [], es => f es
  | key :: path, es =>
    alter key (fun
      | none => (within named f path []).map (.table named ·)
      | some (.table n inner) => (within named f path inner).map (.table n ·)
      | some (.tables done last) => (within named f path last).map (.tables done ·)
      | some (.value _) => none) es

/-- Set a key that is not there. -/
def setKey (key : String) (v : Value) (es : Entries) : Option Entries :=
  alter key (fun
    | none => some (.value v)
    | some _ => none) es

/-- The header of a table with this key. -/
def openTable (key : String) (es : Entries) : Option Entries :=
  alter key (fun
    | none => some (.table true [])
    | some (.table false inner) => some (.table true inner)
    | some _ => none) es

/-- The header of one more table under this key. -/
def openNext (key : String) (es : Entries) : Option Entries :=
  alter key (fun
    | none => some (.tables [] [])
    | some (.tables done last) => some (.tables (done ++ [last]) [])
    | some _ => none) es

mutual

/-- The value of a finished item. -/
def Item.toValue : Item → Value
  | .value v => v
  | .table _ es => .dict (toPairs es)
  | .tables done last => .list (toDicts done ++ [.dict (toPairs last)])

/-- The entries of a finished table. -/
def toPairs : Entries → List (Value × Value)
  | [] => []
  | (key, item) :: rest => (.str key, item.toValue) :: toPairs rest

/-- Finished tables. -/
def toDicts : List Entries → List Value
  | [] => []
  | es :: rest => .dict (toPairs es) :: toDicts rest

end

/-- Set a dotted key. -/
def setPath (path : List String) (key : String) (v : Value) (es : Entries) : Option Entries :=
  within true (setKey key v) path es

end WordLint.Toml
