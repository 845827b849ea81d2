import Mathlib
import WordLint.Pattern.Basic
import WordLint.Proofs.Regex.Plain
import WordLint.Proofs.Text.LetterCase

/-!
# Blocked words

A **word** is made of letters and numbers of any script. Its small form is plain, so as a pattern it
matches itself (`occurrences_of_isWord`).

**The law** (`word_found_iff`): a word is found in a text that it is written in exactly when its small
form is a part of the small form of the text. This is so whenever the capital sigmas of the word have
the same small form in the text as in the word alone, and so for every word without one. A word that ends
in a capital sigma is lost when the text goes on with a letter (`word_lost_before_letter`): alone the
sigma is final, in the text it is not.
-/

namespace WordLint

/-! ## Single patterns -/

/-- What a pattern finds alone, when its small form is read. -/
theorem occurrences_single {p : String} {e : Regex.Compiled} (h : Regex.compile (Text.lower p) = .ok e)
    (text : String) :
    occurrences text [p] = .ok ((e.spans (searchedText text)).map fun span =>
      ⟨Regex.spanText (searchedText text) span, ⟨Text.lower p, e⟩⟩) := by
  have hcompile : Pattern.compile p = .ok ⟨Text.lower p, e⟩ := by
    unfold Pattern.compile
    dsimp only
    rw [h]
    rfl
  unfold occurrences
  rw [List.mapM_cons, List.mapM_nil, hcompile]
  show Except.ok (List.flatMap _ [_]) = _
  rw [List.flatMap_singleton]
  rfl

/-- A pattern whose small form is refused. -/
theorem occurrences_refused {p : String} {f : Regex.Failure} (h : Regex.compile (Text.lower p) = .error f)
    (text : String) : occurrences text [p] = .error f := by
  have hcompile : Pattern.compile p = .error f := by
    unfold Pattern.compile
    dsimp only
    rw [h]
    rfl
  unfold occurrences
  rw [List.mapM_cons, hcompile]
  rfl

/-! ## Words -/

/-- Letters and numbers of any script, at least one of them. -/
def IsWord (w : String) : Prop :=
  w ≠ "" ∧ ∀ c ∈ w.toList, Text.isLetter c ∨ Text.isNumber c

instance (w : String) : Decidable (IsWord w) :=
  @instDecidableAnd _ _ inferInstance (List.decidableBAll _ w.toList)

variable {w : String}

/-- The small form of a word is not empty, and every character of it stands for itself. -/
theorem IsWord.lowered (h : IsWord w) :
    Text.lowerAfter [] w.toList ≠ [] ∧ ∀ c ∈ Text.lowerAfter [] w.toList, Regex.Plain c := by
  refine ⟨Text.lowerAfter_ne_nil (fun hnil => h.1 (String.toList_eq_nil_iff.mp hnil)) [], ?_⟩
  refine Text.forall_mem_lowerAfter (by decide) (by decide) (fun c hc d hd => ?_) []
  exact Regex.plain_of_alphanum_or_above (Text.alphanum_or_above_of_mem_lowerChar (h.2 c hc) hd)

/-- The expression that a word is read as. -/
def wordExpression (w : String) : Regex.Compiled :=
  ⟨Regex.catAll (Regex.literals (Text.lowerAfter [] w.toList)), []⟩

/-- A word as a pattern finds the spans of its own characters. -/
theorem occurrences_of_isWord (h : IsWord w) (text : String) :
    occurrences text [w] = .ok (((wordExpression w).spans (searchedText text)).map fun span =>
      ⟨Regex.spanText (searchedText text) span, ⟨Text.lower w, wordExpression w⟩⟩) :=
  occurrences_single (Regex.compile_plain h.lowered.2) text

/-- The text that is searched, as characters. -/
theorem toList_searchedText (text : String) :
    (searchedText text).toList = Text.lowerAfter [] text.toList := by
  unfold searchedText Text.lower
  rw [String.toList_ofList]

/-- A word is found in a text exactly when its small form is a part of that of the text. -/
theorem wordExpression_finds_iff (h : IsWord w) (text : String) :
    (wordExpression w).spans (searchedText text) ≠ [] ↔
      Text.lowerAfter [] w.toList <:+: Text.lowerAfter [] text.toList := by
  rw [← toList_searchedText text]
  exact Regex.spans_literals_ne_nil_iff h.lowered.1

/-- **A word in a text.** A word is read as a pattern, and whatever it finds is its small form. It is found
in a text that it is written in exactly when its small form is a part of that of the text; this is so when
the text keeps the word's capital sigmas, and so for every word without one. -/
theorem word_found_iff (h : IsWord w) (u v : String) :
    ∃ os, occurrences (u ++ w ++ v) [w] = .ok os ∧
      (∀ o ∈ os, o.text = Text.lower w) ∧
      (os ≠ [] ↔ Text.lowerAfter [] w.toList <:+: Text.lowerAfter [] (u ++ w ++ v).toList) ∧
      (Text.KeepsSigmas u.toList w.toList v.toList → os ≠ []) ∧
      ('Σ' ∉ w.toList → os ≠ []) := by
  have hfinds := wordExpression_finds_iff h (u ++ w ++ v)
  rw [Ne, ← List.map_eq_nil_iff] at hfinds
  have hkeeps : Text.KeepsSigmas u.toList w.toList v.toList →
      Text.lowerAfter [] w.toList <:+: Text.lowerAfter [] (u ++ w ++ v).toList := by
    intro hkeeps
    rw [String.toList_append, String.toList_append]
    exact Text.lowerAfter_infix hkeeps
  refine ⟨_, occurrences_of_isWord h (u ++ w ++ v), ?_, hfinds, fun hk => hfinds.mpr (hkeeps hk),
    fun hnone => hfinds.mpr (hkeeps (Text.keepsSigmas_of_notMem hnone _ _))⟩
  intro o ho
  obtain ⟨span, hspan, rfl⟩ := List.mem_map.mp ho
  exact Regex.spanText_of_mem_spans_literals h.lowered.1 hspan

/-- A word that ends in a capital sigma, at the end of a sentence. -/
theorem word_found_at_end :
    IsWord "ΟΔΟΣ" ∧ ∃ os, occurrences ("Η " ++ "ΟΔΟΣ" ++ ".") ["ΟΔΟΣ"] = .ok os ∧ os ≠ [] := by
  have hword : IsWord "ΟΔΟΣ" := by decide +kernel
  obtain ⟨os, hos, _, _, hkeeps, _⟩ := word_found_iff hword "Η " "."
  refine ⟨hword, os, hos, hkeeps ?_⟩
  intro x y hxy
  obtain ⟨rfl, rfl⟩ : x = ['Ο', 'Δ', 'Ο'] ∧ y = [] := by
    rcases x with _ | ⟨a, _ | ⟨b, _ | ⟨c, _ | ⟨d, x⟩⟩⟩⟩ <;> simp at hxy
    obtain ⟨rfl, rfl, rfl, rfl⟩ := hxy
    exact ⟨rfl, rfl⟩
  decide +kernel

/-- The sigma that ends this word alone is final, and is not when the text goes on with a letter. So the
word is not found in a text that starts with it. -/
theorem word_lost_before_letter :
    IsWord "ΑΣ" ∧ occurrences ("" ++ "ΑΣ" ++ "Α") ["ΑΣ"] = .ok [] := by
  have hword : IsWord "ΑΣ" := by decide +kernel
  have hnone : (wordExpression "ΑΣ").spans (searchedText ("" ++ "ΑΣ" ++ "Α")) = [] := by
    by_contra hfound
    have hpart := (wordExpression_finds_iff hword _).mp hfound
    revert hpart
    decide +kernel
  rw [occurrences_of_isWord hword, hnone]
  exact ⟨hword, rfl⟩

end WordLint
