import Mathlib
import WordLint.Text.Blank
import WordLint.Text.Cut

/-!
# Pieces of texts

A text that is cut at a mark falls into pieces without the mark, and at each mark into what stands before it and what
stands behind it. So it is two pieces exactly when one mark is in it (`cutAt_eq_pair_iff`).

A trimmed text has lost the blanks at its ends and nothing else (`exists_trim`), and a text without blanks is what is
left when blanks have been put around it (`trim_around`).
-/

namespace WordLint.Text

variable {mark c : Char} {cs piece : List Char}

/-! ## Cuts -/

theorem cutAt_of_notMem (h : mark ∉ cs) : cutAt mark cs = [cs] := by
  induction cs with
  | nil => rfl
  | cons c cs ih =>
    have hc : c ≠ mark := fun heq => h (by rw [heq]; exact List.mem_cons_self)
    rw [cutAt, if_neg hc, ih fun hmem => h (List.mem_cons_of_mem _ hmem)]
    rfl

theorem cutAt_ne_nil (mark : Char) (cs : List Char) : cutAt mark cs ≠ [] := by
  cases cs with
  | nil => exact List.cons_ne_nil _ _
  | cons c cs =>
    rw [cutAt]
    split
    · exact List.cons_ne_nil _ _
    · unfold consFirst
      split <;> exact List.cons_ne_nil _ _

/-- At a mark a text is cut into what stands before it and what stands behind it. -/
theorem cutAt_append (mark : Char) (cs more : List Char) :
    cutAt mark (cs ++ mark :: more) = cutAt mark cs ++ cutAt mark more := by
  induction cs with
  | nil => simp [cutAt]
  | cons c cs ih =>
    rw [List.cons_append, cutAt, cutAt, ih]
    split
    · rfl
    · cases hcs : cutAt mark cs with
      | nil => exact absurd hcs (cutAt_ne_nil mark cs)
      | cons piece rest => rfl

/-- No piece of a text holds the mark that it was cut at. -/
theorem notMem_of_mem_cutAt (h : piece ∈ cutAt mark cs) : mark ∉ piece := by
  induction cs generalizing piece with
  | nil =>
    rw [List.mem_singleton.mp h]
    exact List.not_mem_nil
  | cons c cs ih =>
    rw [cutAt] at h
    split at h
    · rcases List.mem_cons.mp h with rfl | h
      · exact List.not_mem_nil
      · exact ih h
    · rename_i hc
      cases hcut : cutAt mark cs with
      | nil => exact absurd hcut (cutAt_ne_nil mark cs)
      | cons first rest =>
        rw [hcut] at h ih
        rcases List.mem_cons.mp h with rfl | h
        · intro hmem
          rcases List.mem_cons.mp hmem with rfl | hmem
          · exact hc rfl
          · exact ih List.mem_cons_self hmem
        · exact ih (List.mem_cons_of_mem _ h)

/-- With the mark between them again, the pieces make up the text. -/
theorem intercalate_cutAt (mark : Char) (cs : List Char) : [mark].intercalate (cutAt mark cs) = cs := by
  induction cs with
  | nil => rfl
  | cons c cs ih =>
    obtain ⟨first, rest, hcut⟩ := List.exists_cons_of_ne_nil (cutAt_ne_nil mark cs)
    rw [cutAt]
    rw [hcut] at ih ⊢
    split
    · rename_i hc
      rw [← ih, hc]
      simp [List.intercalate, List.intersperse]
    · rw [consFirst, ← ih]
      cases rest <;> simp [List.intercalate, List.intersperse]

/-- A text is cut in two where one mark is in it. -/
theorem cutAt_eq_pair_iff {a b : List Char} :
    cutAt mark cs = [a, b] ↔ cs = a ++ mark :: b ∧ mark ∉ a ∧ mark ∉ b := by
  constructor
  · intro h
    have hcs := intercalate_cutAt mark cs
    rw [h] at hcs
    have hpieces {piece : List Char} (hpiece : piece ∈ [a, b]) : mark ∉ piece := by
      rw [← h] at hpiece
      exact notMem_of_mem_cutAt hpiece
    exact ⟨by simpa [List.intercalate] using hcs.symm, hpieces (by simp), hpieces (by simp)⟩
  · rintro ⟨rfl, ha, hb⟩
    rw [cutAt_append, cutAt_of_notMem ha, cutAt_of_notMem hb]
    rfl

/-! ## Blanks at the ends -/

theorem dropWhile_of_not_blank (h : ∀ c ∈ cs, isBlank c = false) : cs.dropWhile isBlank = cs := by
  cases cs with
  | nil => rfl
  | cons c cs => rw [List.dropWhile_cons_of_neg (by simp [h c List.mem_cons_self])]

/-- A text without blanks is not trimmed. -/
theorem trim_of_not_blank (h : ∀ c ∈ cs, isBlank c = false) : trim cs = cs := by
  unfold trim
  rw [dropWhile_of_not_blank h, dropWhile_of_not_blank fun c hc => h c (List.mem_reverse.mp hc), List.reverse_reverse]

/-- A text is its trimmed form with blanks around it. -/
theorem exists_trim (cs : List Char) : ∃ lead tail, cs = lead ++ trim cs ++ tail ∧ (∀ c ∈ lead, isBlank c = true) ∧
    ∀ c ∈ tail, isBlank c = true := by
  refine ⟨cs.takeWhile isBlank, ((cs.dropWhile isBlank).reverse.takeWhile isBlank).reverse, ?_, ?_, ?_⟩
  · rw [trim, List.append_assoc, ← List.reverse_append, List.takeWhile_append_dropWhile, List.reverse_reverse,
      List.takeWhile_append_dropWhile]
  · exact fun c hc => List.mem_takeWhile_imp hc
  · exact fun c hc => List.mem_takeWhile_imp (List.mem_reverse.mp hc)

/-- Blanks around a text without blanks are all that is lost. -/
theorem trim_around {lead tail : List Char} (hlead : ∀ c ∈ lead, isBlank c = true)
    (hcs : ∀ c ∈ cs, isBlank c = false) (htail : ∀ c ∈ tail, isBlank c = true) : trim (lead ++ cs ++ tail) = cs := by
  cases cs with
  | nil =>
    have hblank : ∀ c ∈ lead ++ tail, isBlank c = true := fun c hc => (List.mem_append.mp hc).elim (hlead c) (htail c)
    rw [trim, List.append_nil, List.dropWhile_eq_nil_iff.mpr hblank]
    rfl
  | cons c cs =>
    have hfirst : (c :: cs ++ tail).dropWhile isBlank = c :: cs ++ tail := by
      rw [List.cons_append, List.dropWhile_cons_of_neg (by simp [hcs c List.mem_cons_self])]
    rw [trim, List.append_assoc, List.dropWhile_append_of_pos hlead, hfirst, List.reverse_append,
      List.dropWhile_append_of_pos fun d hd => htail d (List.mem_reverse.mp hd),
      dropWhile_of_not_blank fun d hd => hcs d (List.mem_reverse.mp hd), List.reverse_reverse]

end WordLint.Text
