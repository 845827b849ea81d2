import Mathlib
import WordLint.Text.Numeral
import WordLint.Text.Utf8

/-!
# Characters of ASCII and of numerals

What holds of every character of ASCII can be found out by going through them (`forall_ascii`). In bytes they are
their code points (`decode_ascii`). A numeral is made of digits, blanks, signs and underscores (`readInt_chars`).
-/

namespace WordLint.Text

/-! ## ASCII -/

/-- There are few characters below 128, so they can be gone through. -/
theorem forall_ascii {P : Char → Prop} (h : ∀ n < 128, P (Char.ofNat n)) {c : Char} (hc : c.toNat < 128) :
    P c := by
  have hchar := h c.toNat hc
  rwa [Char.ofNat_toNat] at hchar

/-- Letters and digits of ASCII are among the first 128 characters. -/
theorem toNat_lt_of_isAlphanum {c : Char} (h : c.isAlphanum = true) : c.toNat < 128 := by
  simp only [Char.isAlphanum, Char.isAlpha, Char.isUpper, Char.isLower, Char.isDigit, Bool.or_eq_true,
    Bool.and_eq_true, decide_eq_true_eq, UInt32.le_iff_toNat_le, ge_iff_le] at h
  have hval : c.toNat = c.val.toNat := rfl
  have hZ : 'Z'.val.toNat = 90 := rfl
  have hz : 'z'.val.toNat = 122 := rfl
  have h9 : '9'.val.toNat = 57 := rfl
  omega

/-- Characters of ASCII are read from the bytes that are their code points. -/
theorem decode_ascii {cs : List Char} (h : ∀ c ∈ cs, c.toNat < 0x80) : decode (cs.map Char.toNat) = .ok cs := by
  unfold decode
  generalize 0 = position
  induction cs generalizing position with
  | nil => rw [List.map_nil, decodeFrom]
  | cons c cs ih =>
    obtain ⟨hc, hrest⟩ := List.forall_mem_cons.mp h
    have hwidth : width? c.toNat = some 1 := if_pos hc
    have hchar : charOf c.toNat [] = c := Char.ofNat_toNat c
    rw [List.map_cons, decodeFrom, hwidth]
    simp only [Nat.sub_self, tailOf, List.length_nil, Nat.zero_add, if_true, List.drop_zero, ih hrest, hchar]
    rfl

/-- Without carriage returns no line break is unified. -/
theorem unifyBreaks_of_notMem {cs : List Char} (h : '\r' ∉ cs) : unifyBreaks cs = cs := by
  induction cs with
  | nil => rfl
  | cons c cs ih =>
    have hc : c ≠ '\r' := fun heq => h (by rw [heq]; exact List.mem_cons_self)
    rw [unifyBreaks, if_neg hc, ih fun hmem => h (List.mem_cons_of_mem _ hmem)]
    exact fun _ heq => absurd heq hc

/-! ## Numerals -/

/-- The digits of a numeral and the marks between them. -/
theorem digitValues?_chars {cs : List Char} {values : List Nat} (h : digitValues? cs = some values) :
    ∀ c ∈ cs, isDecimal c = true ∨ c = '_' := by
  have hdecimal : ∀ {c v}, decimalValue? c = some v → isDecimal c = true := fun h => by
    rw [isDecimal, h]; rfl
  fun_induction digitValues? cs generalizing values with
  | case1 => cases h
  | case2 c =>
    obtain ⟨v, hv, _⟩ := Option.map_eq_some_iff.mp h
    exact List.forall_mem_singleton.mpr (Or.inl (hdecimal hv))
  | case3 c rest ih =>
    cases hv : decimalValue? c with
    | none => rw [hv] at h; cases h
    | some v =>
      cases hmore : digitValues? rest with
      | none => rw [hv, hmore] at h; cases h
      | some more =>
        exact List.forall_mem_cons.mpr ⟨Or.inl (hdecimal hv), List.forall_mem_cons.mpr
          ⟨Or.inr rfl, ih hmore⟩⟩
  | case4 c rest _ _ ih =>
    cases hv : decimalValue? c with
    | none => rw [hv] at h; cases h
    | some v =>
      cases hmore : digitValues? rest with
      | none => rw [hv, hmore] at h; cases h
      | some more => exact List.forall_mem_cons.mpr ⟨Or.inl (hdecimal hv), ih hmore⟩

/-- The characters behind a sign at the front. -/
theorem mem_splitSign {cs : List Char} {c : Char} (h : c ∈ cs) : c ∈ ['-', '+'] ∨ c ∈ (splitSign cs).2 := by
  unfold splitSign
  split
  · rcases List.mem_cons.mp h with rfl | h
    · exact Or.inl (by decide)
    · exact Or.inr h
  · rcases List.mem_cons.mp h with rfl | h
    · exact Or.inl (by decide)
    · exact Or.inr h
  · exact Or.inr h

theorem mem_dropWhile {p : Char → Bool} {cs : List Char} {c : Char} (h : c ∈ cs) :
    p c = true ∨ c ∈ cs.dropWhile p := by
  rw [← List.takeWhile_append_dropWhile (p := p) (l := cs)] at h
  exact (List.mem_append.mp h).imp_left List.mem_takeWhile_imp

/-- A numeral is made of digits, blanks, signs and underscores. -/
theorem readInt_chars {cs : List Char} {n : Int} (h : readInt cs = .ok n) :
    ∀ c ∈ cs, isDecimal c = true ∨ isNumeralBlank c = true ∨ c ∈ ['_', '-', '+'] := by
  intro c hc
  unfold readInt at h
  dsimp only at h
  split at h
  · cases h
  · rename_i values hvalues
    rcases mem_dropWhile (p := isNumeralBlank) hc with hblank | hc
    · exact Or.inr (Or.inl hblank)
    rcases mem_dropWhile (p := isNumeralBlank) (List.mem_reverse.mpr hc) with hblank | hc
    · exact Or.inr (Or.inl hblank)
    rcases mem_splitSign (List.mem_reverse.mpr hc) with hsign | hc
    · exact Or.inr (Or.inr (List.mem_cons_of_mem _ hsign))
    rcases digitValues?_chars hvalues c hc with hdigit | rfl
    · exact Or.inl hdigit
    · exact Or.inr (Or.inr List.mem_cons_self)

end WordLint.Text
