import WordLint.Proofs.Text.LetterCase

/-!
# Small forms are small

A character is **small** when it is its own small form wherever it stands (`IsSmall`). The capitals are held by the
runs of `lowerShifts`, and no run moves one of its characters into a run (`lowerShifts_settled`); so what a
character becomes is small (`isSmall_of_mem_lowerChar`), and so are both forms of a small sigma.

**The law** (`lower_lower`): the small form of a text is its own small form. The context does not matter a second
time, for there is no capital sigma left that could look at it.
-/

namespace WordLint.Text

variable {c d : Char} {cs before : List Char}

/-- A character that is its own small form, in every context. -/
def IsSmall (c : Char) : Prop :=
  c ≠ 'Σ' ∧ lowerChar c = [c]

instance (c : Char) : Decidable (IsSmall c) :=
  inferInstanceAs (Decidable (_ ∧ _))

theorem IsSmall.lowerAt (h : IsSmall c) (before after : List Char) : lowerAt before c after = [c] := by
  unfold Text.lowerAt
  rw [if_neg (by simpa using h.1), h.2]

/-- A text of small characters is its own small form. -/
theorem lowerAfter_of_isSmall (h : ∀ c ∈ cs, IsSmall c) (before : List Char) : lowerAfter before cs = cs := by
  induction cs generalizing before with
  | nil => rfl
  | cons c rest ih =>
    obtain ⟨hc, hrest⟩ := List.forall_mem_cons.mp h
    rw [lowerAfter_cons, hc.lowerAt, ih hrest, List.singleton_append]

/-! ## Where capitals move to -/

/-- No code point of the run from `low` to `high`, spaced as `s` is, belongs to `t`: the two runs lie apart, or in
each other's gaps. -/
def CaseShift.missedBy (t s : CaseShift) (low high : Nat) : Bool :=
  Nat.blt high t.first || Nat.blt t.last low ||
    ((s.stride == 2 || s.first == s.last) && t.stride == 2 && (low + t.first) % 2 == 1)

/-- A run moves its code points to where no run holds any, and to none that is the dotted capital I. -/
theorem lowerShifts_settled :
    (lowerShifts.all fun s =>
      let low := (s.first + s.delta).toNat
      let high := (s.last + s.delta).toNat
      decide (0 < s.first + s.delta) && (Nat.blt high 0x130 || Nat.blt 0x130 low) &&
        lowerShifts.all fun t => t.missedBy s low high) = true := by
  decide +kernel

theorem shiftOf?_moved {s : CaseShift} (hs : s ∈ lowerShifts) {n : Nat} (hn : s.holds n = true) :
    shiftOf? lowerShifts (n + s.delta).toNat = none ∧ (n + s.delta).toNat ≠ 0x130 := by
  have hsettled := List.all_eq_true.mp lowerShifts_settled s hs
  simp only [CaseShift.holds, Bool.and_eq_true, decide_eq_true_eq, beq_iff_eq, Bool.or_eq_true, Nat.blt_eq]
    at hsettled hn
  obtain ⟨⟨hpositive, hdotted⟩, hmissed⟩ := hsettled
  refine ⟨?_, by omega⟩
  unfold shiftOf?
  rw [List.find?_eq_none]
  intro t ht hheld
  have hmiss := List.all_eq_true.mp hmissed t ht
  simp only [CaseShift.missedBy, CaseShift.holds, Bool.and_eq_true, decide_eq_true_eq, beq_iff_eq,
    Bool.or_eq_true, Nat.blt_eq] at hmiss hheld
  rcases hmiss with (hbelow | habove) | ⟨⟨hspaced, htwo⟩, hodd⟩
  · omega
  · omega
  · have heven : (n - s.first) % 2 = 0 := by
      rcases hspaced with hstride | hsingle
      · rw [← hstride]
        exact hn.2
      · omega
    rw [htwo] at hheld
    omega

/-- In ASCII, small letters are small, and what no run holds is no capital. -/
theorem smallLetters_ascii (hascii : c.toNat < 0x80) :
    IsSmall c.toLower ∧ (shiftOf? lowerShifts c.toNat = none → c.toLower = c) := by
  revert hascii
  exact forall_ascii (P := fun c => IsSmall c.toLower ∧ (shiftOf? lowerShifts c.toNat = none → c.toLower = c))
    (by decide +kernel)

/-- A character that no run holds is small, but for the dotted capital I. -/
theorem isSmall_of_shiftOf? (h : shiftOf? lowerShifts c.toNat = none) (hdotted : c ≠ 'İ') : IsSmall c := by
  constructor
  · rintro rfl
    exact absurd h (by decide)
  · unfold lowerChar lowerLetter
    rw [if_neg (by simpa using hdotted)]
    by_cases hascii : c.toNat < 0x80
    · rw [if_pos hascii, (smallLetters_ascii hascii).2 h]
    · rw [if_neg hascii, if_neg (by simpa using hdotted), h]

/-- **What a character becomes is small.** -/
theorem isSmall_of_mem_lowerChar (h : d ∈ lowerChar c) : IsSmall d := by
  unfold lowerChar at h
  split at h
  · rcases List.mem_cons.mp h with rfl | h
    · decide
    · rw [List.mem_singleton.mp h]
      decide
  · rename_i hdotted
    have hdotted : c ≠ 'İ' := by simpa using hdotted
    rw [List.mem_singleton.mp h]
    unfold lowerLetter
    split
    · rename_i hascii
      exact (smallLetters_ascii hascii).1
    · split
      · rename_i s hs
        unfold shiftOf? at hs
        obtain ⟨hmoved, hother⟩ := shiftOf?_moved (List.mem_of_find?_eq_some hs)
          (List.find?_some (p := fun t : CaseShift => t.holds c.toNat) hs)
        rcases s.move_cases c.toNat with hcode | hnull
        · refine isSmall_of_shiftOf? (by rw [hcode]; exact hmoved) ?_
          intro heq
          rw [heq] at hcode
          exact hother hcode.symm
        · rw [hnull]
          decide
      · rename_i hnone
        exact isSmall_of_shiftOf? hnone hdotted

/-! ## The law -/

/-- Small forms are made of small characters. -/
theorem isSmall_of_mem_lowerAfter (cs before : List Char) : ∀ d ∈ lowerAfter before cs, IsSmall d :=
  forall_mem_lowerAfter (by decide) (by decide)
    (fun _ _ _ hd => isSmall_of_mem_lowerChar hd) before

/-- **A small form is its own small form.** -/
theorem lower_lower (s : String) : lower (lower s) = lower s := by
  unfold lower
  rw [String.toList_ofList, lowerAfter_of_isSmall (isSmall_of_mem_lowerAfter s.toList [])]

/-- Only the empty text has an empty small form. -/
theorem lower_eq_empty_iff {s : String} : lower s = "" ↔ s = "" := by
  constructor
  · intro h
    by_contra hne
    have hsmall : lowerAfter [] s.toList = [] := by
      unfold lower at h
      rwa [String.ofList_eq_empty_iff] at h
    exact lowerAfter_ne_nil (fun hnil => hne (String.toList_eq_nil_iff.mp hnil)) [] hsmall
  · rintro rfl
    rfl

end WordLint.Text
