import Mathlib
import WordLint.Rule.Schema

/-!
# What a schema admits

Values fall into three kinds. Some stand for no options at all (`Value.Absent`); some are admitted by a
schema, and come to options (`Schema.Admits`); all others are refused. Both notions are written down here
by the shape of a value alone, without the order in which its entries are looked at.

**The law** (`read_eq_ok_iff`): reading a value gives options exactly when the schema admits the value, and
then those options. It rests on two readings that decide the same thing for every part of a mapping:
`strings?_eq_some_iff` for the lists of strings, `objectionTo?_eq_none_iff` for the entries. No value is of
two kinds (`Admits.not_absent`).
-/

namespace WordLint

/-! ## Shapes -/

namespace Value

/-- A value maps keys to values as these entries say: it is a dictionary, or it is seen through a window, or
through several. -/
inductive Maps : Value → List (Value × Value) → Prop where
  | dict (es : List (Value × Value)) : Maps (.dict es) es
  | view {v : Value} {es : List (Value × Value)} (h : Maps v es) : Maps (.view v) es

/-- A dictionary, seen through windows or not. -/
def IsMapping (v : Value) : Prop :=
  ∃ es, v.Maps es

/-- A list or a tuple. -/
def IsSequence (v : Value) : Prop :=
  ∃ xs, v = .list xs ∨ v = .tuple xs

/-- No options at all: a value that counts as false and is neither a mapping nor a list or a tuple. -/
def Absent (v : Value) : Prop :=
  v.truthy = false ∧ ¬ v.IsMapping ∧ ¬ v.IsSequence

/-- A list or a tuple of these strings. -/
def IsTexts (v : Value) (texts : List String) : Prop :=
  v = .list (texts.map .str) ∨ v = .tuple (texts.map .str)

theorem maps_of_entries? : ∀ {v : Value} {es : List (Value × Value)}, v.entries? = some es → v.Maps es
  | .dict es, _, h => by
    obtain rfl : es = _ := Option.some.inj h
    exact .dict es
  | .view _, _, h => .view (maps_of_entries? h)

theorem entries?_eq_some_iff {v : Value} {es : List (Value × Value)} :
    v.entries? = some es ↔ v.Maps es := by
  refine ⟨maps_of_entries?, fun h => ?_⟩
  induction h with
  | dict es => rfl
  | view _ ih => exact ih

/-- A value has the entries of one mapping at most. -/
theorem Maps.unique {v : Value} {es es' : List (Value × Value)} (h : v.Maps es) (h' : v.Maps es') : es = es' :=
  Option.some.inj ((entries?_eq_some_iff.mpr h).symm.trans (entries?_eq_some_iff.mpr h'))

theorem items?_eq_some_iff {v : Value} {xs : List Value} :
    v.items? = some xs ↔ v = .list xs ∨ v = .tuple xs := by
  constructor
  · intro h
    unfold items? at h
    split at h
    · cases h
      exact .inl rfl
    · cases h
      exact .inr rfl
    · cases h
  · rintro (rfl | rfl) <;> rfl

theorem isMapping_iff {v : Value} : v.IsMapping ↔ v.entries?.isSome = true := by
  rw [Option.isSome_iff_exists]
  simp only [entries?_eq_some_iff, IsMapping]

theorem isSequence_iff {v : Value} : v.IsSequence ↔ v.items?.isSome = true := by
  rw [Option.isSome_iff_exists]
  simp only [items?_eq_some_iff, IsSequence]

theorem isAbsent_iff {v : Value} : v.isAbsent = true ↔ v.Absent := by
  unfold Absent isAbsent
  rw [isMapping_iff, isSequence_iff]
  simp [and_assoc]

/-! ## Lists of strings -/

theorem mapM_str?_eq_some_iff {xs : List Value} {texts : List String} :
    xs.mapM str? = some texts ↔ xs = texts.map .str := by
  induction xs generalizing texts with
  | nil => simp [eq_comm]
  | cons x xs ih =>
    rw [List.mapM_cons]
    constructor
    · intro h
      obtain ⟨text, htext, h⟩ := Option.bind_eq_some_iff.mp h
      obtain ⟨rest, hrest, h⟩ := Option.bind_eq_some_iff.mp h
      cases h
      unfold str? at htext
      split at htext
      · cases htext
        rw [ih.mp hrest, List.map_cons]
      · cases htext
    · intro h
      cases texts with
      | nil => cases h
      | cons text rest =>
        rw [List.map_cons] at h
        obtain ⟨rfl, htail⟩ := List.cons.inj h
        rw [ih.mpr htail]
        rfl

theorem strings?_eq_some_iff {v : Value} {texts : List String} :
    v.strings? = some texts ↔ v.IsTexts texts := by
  unfold strings? IsTexts
  constructor
  · intro h
    obtain ⟨xs, hxs, h⟩ := Option.bind_eq_some_iff.mp h
    rw [← mapM_str?_eq_some_iff.mp h]
    exact items?_eq_some_iff.mp hxs
  · intro h
    exact Option.bind_eq_some_iff.mpr ⟨_, items?_eq_some_iff.mpr h, mapM_str?_eq_some_iff.mpr rfl⟩

theorem isStringList_iff {v : Value} : v.isStringList = true ↔ ∃ texts, v.IsTexts texts := by
  unfold isStringList
  rw [Option.isSome_iff_exists]
  simp only [strings?_eq_some_iff]

end Value

/-! ## Mappings and all other values -/

namespace Schema

/-- An entry of a mapping that is admitted: a known key, with a list or a tuple of strings. -/
def AdmitsEntry (s : Schema) (entry : Value × Value) : Prop :=
  (∃ key ∈ s.keys, entry.1 = .str key) ∧ ∃ texts, entry.2.IsTexts texts

/-- A schema admits a value, which comes to these options: options themselves, an empty list or tuple, and
a mapping all of whose entries are admitted. -/
inductive Admits (s : Schema) : Value → Options → Prop where
  | options (o : Options) : s.Admits (.options o) o
  | emptyList : s.Admits (.list []) .absent
  | emptyTuple : s.Admits (.tuple []) .absent
  | mapping {v : Value} {es : List (Value × Value)} (hv : v.Maps es)
      (hes : ∀ entry ∈ es, s.AdmitsEntry entry) : s.Admits v (optionsOf es)

theorem any_str?_iff {keys : List String} {v : Value} :
    v.str?.any keys.contains = true ↔ ∃ key ∈ keys, v = .str key := by
  unfold Value.str?
  split
  · rename_i s
    simp only [Option.any_some, List.contains_iff_mem]
    constructor
    · intro h
      exact ⟨s, h, rfl⟩
    · rintro ⟨key, hkey, h⟩
      cases h
      exact hkey
  · rename_i hother
    simp only [Option.any_none, Bool.false_eq_true, false_iff]
    rintro ⟨key, _, rfl⟩
    exact hother key rfl

/-- No entry of a mapping is objected to exactly when all of them are admitted. -/
theorem objectionTo?_eq_none_iff {s : Schema} {es : List (Value × Value)} :
    s.objectionTo? es = none ↔ ∀ entry ∈ es, s.AdmitsEntry entry := by
  induction es with
  | nil => simp [objectionTo?]
  | cons entry rest ih =>
    rw [List.forall_mem_cons, ← ih]
    unfold AdmitsEntry
    rw [← any_str?_iff, ← Value.isStringList_iff]
    obtain ⟨key, value⟩ := entry
    rw [objectionTo?]
    cases key.str?.any s.keys.contains <;> cases value.isStringList <;> simp

/-- **Reading gives options exactly for the values that are admitted.** -/
theorem read_eq_ok_iff {s : Schema} {v : Value} {o : Options} : s.read v = .ok o ↔ s.Admits v o := by
  constructor
  · intro h
    unfold read at h
    split at h
    · cases h
      exact .options _
    · cases h
      exact .emptyList
    · cases h
      exact .emptyTuple
    · unfold objection? at h
      cases hentries : v.entries? with
      | none =>
        rw [hentries] at h
        cases h
      | some es =>
        rw [hentries] at h
        dsimp only at h
        cases hobjection : s.objectionTo? es with
        | some objection =>
          rw [hobjection] at h
          cases h
        | none =>
          rw [hobjection] at h
          cases h
          exact .mapping (Value.entries?_eq_some_iff.mp hentries) (objectionTo?_eq_none_iff.mp hobjection)
  · intro h
    cases h with
    | options => rfl
    | emptyList => rfl
    | emptyTuple => rfl
    | mapping hv hes =>
      have hentries := Value.entries?_eq_some_iff.mpr hv
      have hobjection := objectionTo?_eq_none_iff.mpr hes
      cases hv <;>
      · unfold read objection?
        simp only [hentries, hobjection, Option.getD_some]

/-- A value that is admitted does not stand for no options. -/
theorem Admits.not_absent {s : Schema} {v : Value} {o : Options} (h : s.Admits v o) : ¬ v.Absent := by
  rintro ⟨htruthy, hmapping, hsequence⟩
  cases h with
  | options => cases htruthy
  | emptyList => exact hsequence ⟨[], .inl rfl⟩
  | emptyTuple => exact hsequence ⟨[], .inr rfl⟩
  | mapping hv hes => exact hmapping ⟨_, hv⟩

/-- A value that is not admitted is refused. -/
theorem exists_objection {s : Schema} {v : Value} (h : ∀ o, ¬ s.Admits v o) :
    ∃ objection, s.read v = .error objection := by
  cases hread : s.read v with
  | ok o => exact absurd (read_eq_ok_iff.mp hread) (h o)
  | error objection => exact ⟨objection, rfl⟩

end Schema

end WordLint
