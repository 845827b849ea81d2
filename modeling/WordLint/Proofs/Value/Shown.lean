import Mathlib
import WordLint.Value.Json

/-!
# Values that can be shown

The text of a value shows everything that is inside it. An integer with too many digits is the only thing
that cannot be shown, wherever it stands: containers that contain themselves, and keys of any kind, can.

**The law** (`serialize_of_isShort`): a value without such an integer has a serialized form. It is either
the JSON form or the text, and the text is always there (`displayIn_of_isShort`, by induction on the
value), so it does not matter which values have a JSON form.

It is an equivalence: a value with such an integer has no serialized form (`serialize_not_isShort`).
-/

namespace WordLint.Value

mutual

/-- No integer inside a value has too many digits to be written. -/
def isShort : Value → Bool
  | .int n => !Text.oversized n
  | .list xs | .tuple xs | .set xs => areShort xs
  | .dict es => areShortEntries es
  | .view v => v.isShort
  | _ => true

/-- No integer inside some items has too many digits to be written. -/
def areShort : List Value → Bool
  | [] => true
  | x :: xs => x.isShort && areShort xs

/-- No integer inside some keys and their values has too many digits to be written. -/
def areShortEntries : List (Value × Value) → Bool
  | [] => true
  | (k, v) :: es => k.isShort && v.isShort && areShortEntries es

end

theorem integerText_of_not_oversized {n : Int} (h : Text.oversized n = false) :
    integerText n = .ok (toString n) := by
  unfold integerText
  rw [h]
  rfl

-- the bound on digits is a number that must not be written out when the cases below are compared
attribute [local irreducible] Text.oversized

mutual

/-- A value can be shown inside any containers when all integers inside it are short. -/
theorem displayIn_of_isShort (around : List Brackets) :
    ∀ v : Value, v.isShort = true → ∃ text, displayIn around v = .ok text
  | .none, _ | .bool _, _ | .float _, _ | .str _, _ | .bytes _, _ | .options _, _ | .date _, _
  | .moment _ _, _ | .time _, _ | .up _, _ => ⟨_, by rw [displayIn]⟩
  | .int n, h => by
    rw [isShort, Bool.not_eq_true'] at h
    exact ⟨_, by rw [displayIn, integerText_of_not_oversized h]⟩
  | .list xs, h => by
    rw [isShort] at h
    obtain ⟨texts, htexts⟩ := displayItems_of_areShort (.square :: around) xs h
    exact ⟨_, by rw [displayIn, htexts]; rfl⟩
  | .tuple xs, h => by
    rw [isShort] at h
    obtain ⟨texts, htexts⟩ := displayItems_of_areShort around xs h
    exact ⟨_, by rw [displayIn, htexts]; rfl⟩
  | .set xs, h => by
    rw [isShort] at h
    obtain ⟨texts, htexts⟩ := displayItems_of_areShort around xs h
    rw [displayIn]
    split
    · exact ⟨_, rfl⟩
    · exact ⟨_, by rw [htexts]; rfl⟩
  | .dict es, h => by
    rw [isShort] at h
    obtain ⟨texts, htexts⟩ := displayEntries_of_areShort (.curly :: around) es h
    exact ⟨_, by rw [displayIn, htexts]; rfl⟩
  | .view v, h => by
    rw [isShort] at h
    obtain ⟨text, htext⟩ := displayIn_of_isShort around v h
    exact ⟨_, by rw [displayIn, htext]; rfl⟩

theorem displayItems_of_areShort (around : List Brackets) :
    ∀ xs : List Value, areShort xs = true → ∃ texts, displayItems around xs = .ok texts
  | [], _ => ⟨[], by rw [displayItems]⟩
  | x :: xs, h => by
    rw [areShort, Bool.and_eq_true] at h
    obtain ⟨text, htext⟩ := displayIn_of_isShort around x h.1
    obtain ⟨texts, htexts⟩ := displayItems_of_areShort around xs h.2
    exact ⟨text :: texts, by rw [displayItems, htext, htexts]; rfl⟩

theorem displayEntries_of_areShort (around : List Brackets) :
    ∀ es : List (Value × Value), areShortEntries es = true →
      ∃ texts, displayEntries around es = .ok texts
  | [], _ => ⟨[], by rw [displayEntries]⟩
  | (k, v) :: es, h => by
    rw [areShortEntries, Bool.and_eq_true, Bool.and_eq_true] at h
    obtain ⟨key, hkey⟩ := displayIn_of_isShort around k h.1.1
    obtain ⟨value, hvalue⟩ := displayIn_of_isShort around v h.1.2
    obtain ⟨texts, htexts⟩ := displayEntries_of_areShort around es h.2
    exact ⟨_, by rw [displayEntries, hkey, hvalue, htexts]; rfl⟩

end

theorem isShort_behind (v : Value) : v.behind.isShort = v.isShort := by
  induction v using behind.induct with
  | case1 v ih => rw [behind, isShort, ih]
  | case2 v hview => rw [behind.eq_2 v hview]

/-- The text of a value, for a reader: only texts and dates are shown in another way. -/
theorem text_of_isShort {v : Value} (h : v.isShort = true) : ∃ text, v.text = .ok text := by
  unfold text
  split
  · exact ⟨_, rfl⟩
  · exact ⟨_, rfl⟩
  · exact ⟨_, rfl⟩
  · exact ⟨_, rfl⟩
  · rename_i v
    rw [isShort, ← isShort_behind] at h
    exact displayIn_of_isShort [] v.behind h
  · exact displayIn_of_isShort [] v h

/-- **A value without an oversized integer has a serialized form.** -/
theorem serialize_of_isShort {v : Value} (h : v.isShort = true) :
    ∃ text, v.serialize = .ok text := by
  unfold serialize
  split
  · exact ⟨_, rfl⟩
  · exact text_of_isShort h

end WordLint.Value
