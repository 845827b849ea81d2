import WordLint.Value.Basic

/-!
# Values in their place

A value that was found inside another one may refer to containers outside of it. `Place` keeps such a
value together with the containers around it, and `Place.detach` makes it a value of its own: what it
refers to outside is written out where it is referred to, until a container is met that is already
being written, which then is `up` again.

A container is known by its route, the positions that lead to it from the outermost value, last
position first.
-/

namespace WordLint

/-- The positions that lead to a value from the outermost one, last position first. -/
abbrev Route := List Nat

/-- A container and its route. -/
structure Container where
  route : Route
  value : Value

/-- A value in its place. -/
structure Place where
  /-- The lists and dictionaries around the value, innermost first. -/
  around : List Container
  route : Route
  value : Value

namespace Place

/-- A value that nothing surrounds. -/
def root (v : Value) : Place := ⟨[], [], v⟩

/-- The place that a value refers to when it is `up`; every other value refers to itself. -/
def follow (p : Place) : Place :=
  match p.value with
  | .up n =>
    match p.around[n]? with
    | some c => ⟨p.around.drop (n + 1), c.route, c.value⟩
    | none => p
  | _ => p

/-- The place of the `i`th part of a container. -/
def part (p : Place) (i : Nat) (v : Value) : Place :=
  ⟨⟨p.route, p.value⟩ :: p.around, i :: p.route, v⟩

/-- The place of the `i`th part of something that `up` does not count. -/
def item (p : Place) (i : Nat) (v : Value) : Place :=
  ⟨p.around, i :: p.route, v⟩

/-- Write a value out, given the routes of the containers being written, innermost first. -/
def writeOut : Nat → List (Option Route) → Place → Value
  | 0, _, p => p.value
  | fuel + 1, active, p =>
    let p := p.follow
    match active.findIdx? (· == some p.route), p.value with
    | some i, .list _ | some i, .dict _ => .up i
    | _, .list xs => .list (xs.mapIdx fun i x => writeOut fuel (some p.route :: active) (p.part i x))
    | _, .dict es =>
      .dict (es.mapIdx fun i e => (e.1, writeOut fuel (some p.route :: active) (p.part i e.2)))
    | _, .view v => .view (writeOut fuel active (p.item 0 v))
    | _, .tuple xs => .tuple (xs.mapIdx fun i x => writeOut fuel active (p.item i x))
    | _, v => v

end Place

mutual

/-- The number of values in a value. -/
def Value.size : Value → Nat
  | .list xs | .tuple xs | .set xs => sizeOfItems xs + 1
  | .dict es => sizeOfEntries es + 1
  | .view v => v.size + 1
  | _ => 1

/-- The number of values in some items. -/
def sizeOfItems : List Value → Nat
  | [] => 0
  | x :: xs => x.size + sizeOfItems xs

/-- The number of values in some entries. -/
def sizeOfEntries : List (Value × Value) → Nat
  | [] => 0
  | (_, v) :: es => v.size + sizeOfEntries es

end

namespace Place

/-- The number of values in the outermost container. -/
def extent (p : Place) : Nat :=
  ((p.around.getLast?.map (·.value)).getD p.value).size

/-- How deep writing out can go: between two references outwards it only goes inwards, and every
container is being written at most once at a time, so the square of the extent is enough. -/
def depthBound (p : Place) : Nat :=
  (p.extent + 1) * (p.extent + 1)

/-- The value on its own. -/
def detach (p : Place) : Value :=
  writeOut p.depthBound [] p

/-- The value of a textual key of a dictionary, in its place. -/
def get? (p : Place) (key : String) : Option Place :=
  let p := p.follow
  match p.value with
  | .dict es => do
    let i ← es.findIdx? fun e => e.1.sameKey (.str key)
    let e ← es[i]?
    return (p.part i e.2).follow
  | _ => none

/-- The place that is seen through all windows, of a value inside these containers. -/
def behindWindows (around : List Container) (route : Route) : Value → Place
  | .view v => behindWindows around (0 :: route) v
  | v => Place.follow ⟨around, route, v⟩

/-- The dictionary that a value is or shows. -/
def dictionary (p : Place) : Place :=
  let p := p.follow
  behindWindows p.around p.route p.value

/-- The entries of a mapping, each value written out inside containers with these routes. -/
def entriesWithin (active : List (Option Route)) (p : Place) : List (Value × Value) :=
  let p := p.dictionary
  match p.value with
  | .dict es => es.mapIdx fun i e => (e.1, (p.part i e.2).writeOut p.depthBound active)
  | _ => []

/-- The entries of a mapping, each value on its own. -/
def entries (p : Place) : List (Value × Value) :=
  p.entriesWithin []

/-- The entries of a mapping as those of a new dictionary. Where the mapping contains itself, the new
dictionary contains the mapping. -/
def copiedEntries (p : Place) : List (Value × Value) :=
  p.entriesWithin [none]

end Place

/-- What a value maps keys to, as the entries of a new dictionary: those of a mapping, the groups of
options, and nothing of other values. -/
def Value.asEntries (v : Value) : List (Value × Value) :=
  match v with
  | .options o => Value.ofOptions o
  | _ => (Place.root v).copiedEntries

end WordLint
