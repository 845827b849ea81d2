import Mathlib
import WordLint.Proofs.Text.LetterCase

/-!
# Texts on one line

A text is on one line when it has no line break, neither a line feed nor a carriage return. What is put together
from such texts is on one line, and so is the small form of such a text: no other character has a small form
with a line break in it.
-/

namespace WordLint

/-- Characters without a line break among them. -/
def OneLine (cs : List Char) : Prop :=
  ∀ c ∈ cs, c ≠ '\n' ∧ c ≠ '\r'

instance (cs : List Char) : Decidable (OneLine cs) :=
  inferInstanceAs (Decidable (∀ c ∈ cs, c ≠ '\n' ∧ c ≠ '\r'))

namespace OneLine

variable {c : Char} {cs ds : List Char}

@[simp] theorem nil : OneLine [] :=
  fun _ h => absurd h List.not_mem_nil

@[simp] theorem cons_iff : OneLine (c :: cs) ↔ (c ≠ '\n' ∧ c ≠ '\r') ∧ OneLine cs :=
  List.forall_mem_cons

@[simp] theorem append_iff : OneLine (cs ++ ds) ↔ OneLine cs ∧ OneLine ds :=
  List.forall_mem_append

theorem of_subset (h : OneLine cs) (hsub : ds ⊆ cs) : OneLine ds :=
  fun c hc => h c (hsub hc)

/-- Characters up to the first that is not wanted, where line breaks are not. -/
theorem takeWhile {p : Char → Bool} (hfeed : p '\n' = false) (hreturn : p '\r' = false) (cs : List Char) :
    OneLine (cs.takeWhile p) := by
  intro c hc
  have hwanted := List.mem_takeWhile_imp hc
  constructor <;> rintro rfl
  · exact Bool.false_ne_true (hfeed.symm.trans hwanted)
  · exact Bool.false_ne_true (hreturn.symm.trans hwanted)

theorem flatMap {α : Type} {f : α → List Char} {l : List α} (h : ∀ a ∈ l, OneLine (f a)) : OneLine (l.flatMap f) := by
  intro c hc
  obtain ⟨a, ha, hc⟩ := List.mem_flatMap.mp hc
  exact h a ha c hc

@[simp] theorem replicate (n : ℕ) (h : c ≠ '\n' ∧ c ≠ '\r') : OneLine (List.replicate n c) := by
  intro d hd
  rw [List.eq_of_mem_replicate hd]
  exact h

/-- Parts with something between them. -/
theorem intercalate {parts : List (List Char)} (hcs : OneLine cs) (h : ∀ p ∈ parts, OneLine p) :
    OneLine (cs.intercalate parts) := by
  induction parts with
  | nil => exact nil
  | cons p rest ih =>
    obtain ⟨hp, hrest⟩ := List.forall_mem_cons.mp h
    cases rest with
    | nil => simpa using hp
    | cons q rest =>
      rw [List.intercalate_cons_cons]
      exact append_iff.mpr ⟨append_iff.mpr ⟨hp, hcs⟩, ih hrest⟩

/-- Texts with something between them. -/
theorem intercalate_texts {s : String} {texts : List String} (hs : OneLine s.toList)
    (h : ∀ t ∈ texts, OneLine t.toList) : OneLine (s.intercalate texts).toList := by
  rw [String.toList_intercalate]
  exact intercalate hs (List.forall_mem_map.mpr h)

end OneLine

/-- A text in a longer one stands for itself. -/
@[simp] theorem toString_text (s : String) : toString s = s :=
  rfl

namespace Text

/-- No other character has a line break for its small letter. -/
theorem toLower_oneLine {c : Char} (h : c ≠ '\n' ∧ c ≠ '\r') (hc : c.toNat < 0x80) :
    c.toLower ≠ '\n' ∧ c.toLower ≠ '\r' := by
  refine forall_ascii (P := fun c => c ≠ '\n' ∧ c ≠ '\r' → c.toLower ≠ '\n' ∧ c.toLower ≠ '\r') ?_ hc h
  decide

/-- The small form of a text on one line is on one line. -/
theorem lower_oneLine {s : String} (h : OneLine s.toList) : OneLine (lower s).toList := by
  unfold lower
  rw [String.toList_ofList]
  refine forall_mem_lowerAfter (by decide) (by decide) (fun c hc d hd => ?_) []
  rcases mem_lowerChar hd with ⟨hascii, rfl⟩ | ⟨_, habove | rfl | rfl⟩
  · exact toLower_oneLine (h c hc) hascii
  · constructor <;> rintro rfl <;> exact absurd habove (by decide)
  · decide
  · decide

end Text

end WordLint
