import WordLint.Proofs.Value.Shown

/-!
# Values that cannot be shown

An integer with too many digits cannot be written, and so no value that holds one can: its JSON form fails where
the integer stands, and so does the text of the value that is then fallen back on. Writing out what a view refers
to does not hide the integer, since on the way inwards to it no container is met a second time
(`writeOut_not_isShort`).

**The law** (`serialize_eq_ok_iff`): the values with a serialized form are exactly those without such an integer.
-/

namespace WordLint

namespace Value

/-! ## Where the integer stands -/

/-- Some items hold an integer with too many digits when one of them does. -/
theorem areShort_eq_false_iff {xs : List Value} :
    areShort xs = false ↔ ∃ (i : Nat) (x : Value), xs[i]? = some x ∧ x.isShort = false := by
  induction xs with
  | nil => simp [areShort]
  | cons x xs ih =>
    rw [areShort, Bool.and_eq_false_iff, ih]
    constructor
    · rintro (hx | ⟨i, y, hy, hshort⟩)
      · exact ⟨0, x, rfl, hx⟩
      · exact ⟨i + 1, y, hy, hshort⟩
    · rintro ⟨i, y, hy, hshort⟩
      cases i with
      | zero =>
        cases hy
        exact .inl hshort
      | succ i => exact .inr ⟨i, y, hy, hshort⟩

/-- Some entries hold an integer with too many digits when a key or a value does. -/
theorem areShortEntries_eq_false_iff {es : List (Value × Value)} :
    areShortEntries es = false ↔
      ∃ (i : Nat) (e : Value × Value), es[i]? = some e ∧ (e.1.isShort = false ∨ e.2.isShort = false) := by
  induction es with
  | nil => simp [areShortEntries]
  | cons e es ih =>
    obtain ⟨k, v⟩ := e
    rw [areShortEntries, Bool.and_eq_false_iff, Bool.and_eq_false_iff, ih]
    constructor
    · rintro (hfirst | ⟨i, e, he, hshort⟩)
      · exact ⟨0, (k, v), rfl, hfirst⟩
      · exact ⟨i + 1, e, he, hshort⟩
    · rintro ⟨i, e, he, hshort⟩
      cases i with
      | zero =>
        cases he
        exact .inl hshort
      | succ i => exact .inr ⟨i, e, he, hshort⟩

-- the bound on digits is a number that must not be written out when the cases below are compared
attribute [local irreducible] Text.oversized

/-! ## The text of a value -/

mutual

/-- A value that holds an integer with too many digits cannot be shown inside any containers. -/
theorem displayIn_not_isShort (around : List Brackets) :
    ∀ v : Value, v.isShort = false → displayIn around v = .error .oversized
  | .none, h | .bool _, h | .float _, h | .str _, h | .bytes _, h | .options _, h | .date _, h
  | .moment _ _, h | .time _, h | .up _, h => by
    cases h
  | .int n, h => by
    rw [isShort, Bool.not_eq_false'] at h
    rw [displayIn, integerText, h]
    rfl
  | .list xs, h => by
    rw [isShort] at h
    rw [displayIn, displayItems_not_areShort _ xs h]
    rfl
  | .tuple xs, h => by
    rw [isShort] at h
    rw [displayIn, displayItems_not_areShort _ xs h]
    rfl
  | .set xs, h => by
    rw [isShort] at h
    have hsome : xs.isEmpty = false := by
      cases xs with
      | nil => cases h
      | cons => rfl
    rw [displayIn, hsome, displayItems_not_areShort _ xs h]
    rfl
  | .dict es, h => by
    rw [isShort] at h
    rw [displayIn, displayEntries_not_areShort _ es h]
    rfl
  | .view v, h => by
    rw [isShort] at h
    rw [displayIn, displayIn_not_isShort around v h]
    rfl

theorem displayItems_not_areShort (around : List Brackets) :
    ∀ xs : List Value, areShort xs = false → displayItems around xs = .error .oversized
  | [], h => by cases h
  | x :: xs, h => by
    rw [areShort] at h
    rw [displayItems]
    cases hx : x.isShort with
    | false =>
      rw [displayIn_not_isShort around x hx]
      rfl
    | true =>
      rw [hx, Bool.true_and] at h
      obtain ⟨text, htext⟩ := displayIn_of_isShort around x hx
      rw [htext, displayItems_not_areShort around xs h]
      rfl

theorem displayEntries_not_areShort (around : List Brackets) :
    ∀ es : List (Value × Value), areShortEntries es = false → displayEntries around es = .error .oversized
  | [], h => by cases h
  | (k, v) :: es, h => by
    rw [areShortEntries] at h
    rw [displayEntries]
    cases hk : k.isShort with
    | false =>
      rw [displayIn_not_isShort around k hk]
      rfl
    | true =>
      obtain ⟨key, hkey⟩ := displayIn_of_isShort around k hk
      rw [hkey]
      cases hv : v.isShort with
      | false =>
        rw [displayIn_not_isShort around v hv]
        rfl
      | true =>
        rw [hk, hv, Bool.true_and, Bool.true_and] at h
        obtain ⟨value, hvalue⟩ := displayIn_of_isShort around v hv
        rw [hvalue, displayEntries_not_areShort around es h]
        rfl

end

theorem text_not_isShort {v : Value} (h : v.isShort = false) : v.text = .error .oversized := by
  unfold text
  split
  · cases h
  · cases h
  · cases h
  · cases h
  · rw [isShort, ← isShort_behind] at h
    exact displayIn_not_isShort [] _ h
  · exact displayIn_not_isShort [] v h

end Value

/-! ## Values in their place -/

namespace Place

open Value (isShort areShort areShortEntries areShort_eq_false_iff areShortEntries_eq_false_iff)

/-- The containers that are being written are further out than a place. -/
def Outside (active : List (Option Route)) (route : Route) : Prop :=
  ∀ r, some r ∈ active → r.length < route.length

theorem Outside.findIdx? {active : List (Option Route)} {route : Route} (h : Outside active route) :
    active.findIdx? (· == some route) = none := by
  refine List.findIdx?_eq_none_iff.mpr fun r hr => beq_eq_false_iff_ne.mpr ?_
  rintro rfl
  exact absurd (h route hr) (Nat.lt_irrefl _)

/-- Further inwards, the container that has been entered is outside too. -/
theorem Outside.enter {active : List (Option Route)} {route : Route} (h : Outside active route) (i : Nat) :
    Outside (some route :: active) (i :: route) := by
  intro r hr
  rcases List.mem_cons.mp hr with heq | hr
  · cases heq
    exact Nat.lt_succ_self _
  · exact Nat.lt_succ_of_lt (h r hr)

theorem Outside.item {active : List (Option Route)} {route : Route} (h : Outside active route) (i : Nat) :
    Outside active (i :: route) :=
  fun r hr => Nat.lt_succ_of_lt (h r hr)

/-- A value that is written out keeps an integer with too many digits. -/
theorem writeOut_not_isShort : ∀ (fuel : Nat) (active : List (Option Route)) (p : Place),
    Outside active p.route → p.value.isShort = false → (writeOut fuel active p).isShort = false := by
  intro fuel
  induction fuel with
  | zero => exact fun active p _ h => h
  | succ fuel ih =>
    rintro active ⟨around, route, v⟩ houtside h
    have hnone := houtside.findIdx?
    dsimp only at hnone h
    unfold writeOut
    cases v with
    | none | bool | float | str | bytes | options | date | moment | time | up => cases h
    | int n =>
      dsimp only [follow]
      rw [hnone]
      exact h
    | list xs =>
      dsimp only [follow]
      rw [hnone]
      rw [isShort, areShort_eq_false_iff] at h
      obtain ⟨i, x, hx, hshort⟩ := h
      rw [isShort, areShort_eq_false_iff]
      exact ⟨i, _, by rw [List.getElem?_mapIdx, hx]; rfl, ih _ _ (houtside.enter i) hshort⟩
    | tuple xs =>
      dsimp only [follow]
      rw [hnone]
      rw [isShort, areShort_eq_false_iff] at h
      obtain ⟨i, x, hx, hshort⟩ := h
      rw [isShort, areShort_eq_false_iff]
      exact ⟨i, _, by rw [List.getElem?_mapIdx, hx]; rfl, ih _ _ (houtside.item i) hshort⟩
    | set xs =>
      dsimp only [follow]
      rw [hnone]
      exact h
    | dict es =>
      dsimp only [follow]
      rw [hnone]
      rw [isShort, areShortEntries_eq_false_iff] at h
      obtain ⟨i, e, he, hshort⟩ := h
      rw [isShort, areShortEntries_eq_false_iff]
      refine ⟨i, (e.1, writeOut fuel (some route :: active) (part ⟨around, route, .dict es⟩ i e.2)), ?_,
        hshort.imp_right (ih _ _ (houtside.enter i))⟩
      rw [List.getElem?_mapIdx, he, Option.map_some]
    | view v =>
      dsimp only [follow]
      rw [hnone]
      exact ih _ _ (houtside.item 0) h

theorem detach_not_isShort {p : Place} (h : p.value.isShort = false) : p.detach.isShort = false :=
  writeOut_not_isShort _ [] p (fun _ hr => absurd hr List.not_mem_nil) h

end Place

/-! ## The JSON form -/

namespace Json

open Value (isShort areShort areShortEntries)

-- as above
attribute [local irreducible] Text.oversized

theorem shown?_not_isShort {v : Value} (h : v.isShort = false) : shown? v = none := by
  unfold shown?
  rw [Value.text_not_isShort h]

theorem integer?_of_oversized {n : Int} (h : Text.oversized n = true) : integer? n = none := by
  unfold integer?
  rw [h]
  rfl

theorem key?_not_isShort {k : Value} (h : k.isShort = false) : key? k = none := by
  unfold key?
  split
  · cases h
  · cases h
  · cases h
  · cases h
  · rw [isShort, Bool.not_eq_false'] at h
    exact integer?_of_oversized h
  · rfl

mutual

/-- A value that holds an integer with too many digits has no JSON form. -/
theorem write?_not_isShort (around : List Container) (route : Route) :
    ∀ v : Value, v.isShort = false → write? around route v = none
  | .none, h | .bool _, h | .float _, h | .str _, h | .bytes _, h | .options _, h | .date _, h
  | .moment _ _, h | .time _, h | .up _, h => by
    cases h
  | .int n, h => by
    rw [isShort, Bool.not_eq_false'] at h
    rw [write?]
    exact integer?_of_oversized h
  | .list xs, h => by
    rw [isShort] at h
    rw [write?, writeItems?_not_areShort _ route 0 xs h]
    rfl
  | .tuple xs, h => by
    rw [isShort] at h
    rw [write?, writeItems?_not_areShort _ route 0 xs h]
    rfl
  | .set xs, h => by
    rw [write?]
    · exact shown?_not_isShort h
    all_goals nofun
  | .dict es, h => by
    rw [isShort] at h
    rw [write?, writeEntries?_not_areShort _ route 0 es h]
    rfl
  | .view v, h => by
    rw [write?]
    exact shown?_not_isShort (Place.detach_not_isShort h)

theorem writeItems?_not_areShort (around : List Container) (route : Route) (i : Nat) :
    ∀ xs : List Value, areShort xs = false → writeItems? around route i xs = none
  | [], h => by cases h
  | x :: xs, h => by
    rw [areShort, Bool.and_eq_false_iff] at h
    rw [writeItems?]
    rcases h with h | h
    · rw [write?_not_isShort around (i :: route) x h]
      rfl
    · rw [writeItems?_not_areShort around route (i + 1) xs h]
      cases write? around (i :: route) x <;> rfl

theorem writeEntries?_not_areShort (around : List Container) (route : Route) (i : Nat) :
    ∀ es : List (Value × Value), areShortEntries es = false → writeEntries? around route i es = none
  | [], h => by cases h
  | (k, v) :: es, h => by
    rw [areShortEntries, Bool.and_eq_false_iff, Bool.and_eq_false_iff] at h
    rw [writeEntries?]
    rcases h with (h | h) | h
    · rw [key?_not_isShort h]
      rfl
    · rw [write?_not_isShort around (i :: route) v h]
      cases key? k <;> rfl
    · rw [writeEntries?_not_areShort around route (i + 1) es h]
      cases key? k <;> cases write? around (i :: route) v <;> rfl

end

end Json

/-! ## The law -/

namespace Value

theorem serialize_not_isShort {v : Value} (h : v.isShort = false) : v.serialize = .error .oversized := by
  unfold serialize
  rw [Json.write?_not_isShort [] [] v h]
  exact text_not_isShort h

/-- **The values with a serialized form** are those without an integer that has too many digits. -/
theorem serialize_eq_ok_iff {v : Value} : (∃ text, v.serialize = .ok text) ↔ v.isShort = true := by
  refine ⟨fun ⟨text, htext⟩ => ?_, serialize_of_isShort⟩
  by_contra h
  rw [serialize_not_isShort (Bool.eq_false_iff.mpr h)] at htext
  cases htext

end Value

end WordLint
