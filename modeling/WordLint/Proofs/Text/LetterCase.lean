import Mathlib
import WordLint.Proofs.Text.Characters
import WordLint.Text.Letter
import WordLint.Text.LetterCase

/-!
# Small letters in context

The small form of a character depends on what stands around it only when the character is a capital
sigma. `lowerBetween` is the small form of a text between two others, and it goes along with
concatenation (`lowerBetween_append`). So the small form of `u ++ w ++ v` has the small form of `w` in
its middle, except that a sigma of `w` may take its other form there.

**The law** (`lowerBetween_eq_lowerAfter`): when the sigmas of `w` keep their forms between `u` and `v`
(`KeepsSigmas`), the middle is the small form of `w`. A text without a capital sigma keeps them
everywhere.
-/

namespace WordLint.Text

/-! ## Contexts -/

/-- The small form of one character between two texts, the one before it nearest character first. -/
def lowerAt (before : List Char) (c : Char) (after : List Char) : List Char :=
  if c == 'Σ' then [sigmaBetween before after] else lowerChar c

/-- The small form of a text between two others. -/
def lowerBetween (before : List Char) : List Char → List Char → List Char
  | [], _ => []
  | c :: rest, after => lowerAt before c (rest ++ after) ++ lowerBetween (c :: before) rest after

theorem lowerAfter_cons (before : List Char) (c : Char) (rest : List Char) :
    lowerAfter before (c :: rest) = lowerAt before c rest ++ lowerAfter (c :: before) rest := rfl

/-- With nothing behind it, a text has the small form that is computed from front to back. -/
theorem lowerBetween_nil (before cs : List Char) : lowerBetween before cs [] = lowerAfter before cs := by
  induction cs generalizing before with
  | nil => rfl
  | cons c rest ih =>
    rw [lowerBetween, lowerAfter_cons, List.append_nil, ih]

/-- Each half of a text sees the other one as part of its context. -/
theorem lowerBetween_append (before x y after : List Char) :
    lowerBetween before (x ++ y) after =
      lowerBetween before x (y ++ after) ++ lowerBetween (x.reverse ++ before) y after := by
  induction x generalizing before with
  | nil => rfl
  | cons c x ih =>
    rw [List.cons_append, lowerBetween, lowerBetween, ih, List.append_assoc, List.append_assoc,
      List.reverse_cons, List.append_assoc, List.singleton_append]

/-- The small form of a text with a part in its middle. -/
theorem lowerAfter_middle (u w v : List Char) :
    lowerAfter [] (u ++ w ++ v) =
      lowerBetween [] u (w ++ v) ++ lowerBetween u.reverse w v ++
        lowerBetween (w.reverse ++ u.reverse) v [] := by
  rw [← lowerBetween_nil, lowerBetween_append, lowerBetween_append]
  simp only [List.append_nil, List.reverse_append]

/-! ## Sigmas -/

/-- Between `u` and `v` every capital sigma of `w` has the small form that it has in `w` alone. -/
def KeepsSigmas (u w v : List Char) : Prop :=
  ∀ x y, w = x ++ 'Σ' :: y →
    sigmaBetween (x.reverse ++ u.reverse) (y ++ v) = sigmaBetween x.reverse y

theorem keepsSigmas_of_notMem {w : List Char} (h : 'Σ' ∉ w) (u v : List Char) : KeepsSigmas u w v := by
  rintro x y rfl
  exact absurd (List.mem_append_right x List.mem_cons_self) h

/-- Two contexts give a text the same small form when they give it to each of its characters. -/
theorem lowerBetween_congr {before before' after after' cs : List Char}
    (h : ∀ x c y, cs = x ++ c :: y →
      lowerAt (x.reverse ++ before) c (y ++ after) = lowerAt (x.reverse ++ before') c (y ++ after')) :
    lowerBetween before cs after = lowerBetween before' cs after' := by
  induction cs generalizing before before' with
  | nil => rfl
  | cons c rest ih =>
    have hfirst := h [] c rest rfl
    have hrest : lowerBetween (c :: before) rest after = lowerBetween (c :: before') rest after' := by
      refine ih fun x d y hrest => ?_
      have hlater := h (c :: x) d y (by rw [hrest, List.cons_append])
      simpa only [List.reverse_cons, List.append_assoc, List.singleton_append] using hlater
    rw [lowerBetween, lowerBetween, hrest]
    exact congrArg (· ++ lowerBetween (c :: before') rest after') hfirst

/-- **A part keeps its small form** in the middle of a text that keeps its sigmas. -/
theorem lowerBetween_eq_lowerAfter {u w v : List Char} (h : KeepsSigmas u w v) :
    lowerBetween u.reverse w v = lowerAfter [] w := by
  rw [← lowerBetween_nil]
  refine lowerBetween_congr fun x c y hw => ?_
  unfold lowerAt
  split
  · rename_i hsigma
    rw [eq_of_beq hsigma] at hw
    rw [List.append_nil, List.append_nil, h x y hw]
  · rfl

/-- The small form of a part is a part of the small form. -/
theorem lowerAfter_infix {u w v : List Char} (h : KeepsSigmas u w v) :
    lowerAfter [] w <:+: lowerAfter [] (u ++ w ++ v) := by
  rw [lowerAfter_middle, lowerBetween_eq_lowerAfter h]
  exact ⟨_, _, rfl⟩

/-! ## What small forms are made of -/

/-- A property that small forms of single characters and both small sigmas have is one of the whole
small form. -/
theorem forall_mem_lowerAfter {P : Char → Prop} (hmid : P 'σ') (hfinal : P 'ς') {cs : List Char}
    (h : ∀ c ∈ cs, ∀ d ∈ lowerChar c, P d) (before : List Char) : ∀ d ∈ lowerAfter before cs, P d := by
  induction cs generalizing before with
  | nil => exact fun d hd => nomatch hd
  | cons c rest ih =>
    intro d hd
    rw [lowerAfter_cons] at hd
    rcases List.mem_append.mp hd with hd | hd
    · unfold lowerAt at hd
      split at hd
      · rw [List.mem_singleton.mp hd]
        unfold sigmaBetween
        split
        · exact hfinal
        · exact hmid
      · exact h c List.mem_cons_self d hd
    · exact ih (fun c hc => h c (List.mem_cons_of_mem _ hc)) _ d hd

/-- Every character has a small form that is not empty. -/
theorem lowerAt_ne_nil (before : List Char) (c : Char) (after : List Char) : lowerAt before c after ≠ [] := by
  unfold lowerAt lowerChar
  split
  · exact List.cons_ne_nil _ _
  · split <;> exact List.cons_ne_nil _ _

/-- A text that is not empty has a small form that is not empty. -/
theorem lowerAfter_ne_nil {cs : List Char} (h : cs ≠ []) (before : List Char) :
    lowerAfter before cs ≠ [] := by
  cases cs with
  | nil => exact absurd rfl h
  | cons c rest => exact List.append_ne_nil_of_left_ne_nil (lowerAt_ne_nil before c rest) _

/-- A run moves a code point by its distance, or to the null character when that is no character. -/
theorem CaseShift.move_cases (s : CaseShift) (n : Nat) :
    (s.move n).toNat = (n + s.delta).toNat ∨ s.move n = '\x00' := by
  unfold CaseShift.move
  by_cases hvalid : (n + s.delta).toNat.isValidChar
  · exact .inl (by rw [Char.toNat_ofNat, if_pos hvalid])
  · exact .inr (by rw [Char.ofNat, dif_neg hvalid]; rfl)

/-- Above ASCII a run of capitals moves to characters above ASCII; only the Kelvin sign moves to a letter
of ASCII. -/
theorem lowerShifts_above : ∀ s ∈ lowerShifts,
    s.last < 0x80 ∨ s = ⟨0x212A, 0x212A, 1, -8383⟩ ∨
      (0x80 ≤ s.first + s.delta ∧
        (s.last + s.delta < 0xD800 ∨ (0xDFFF < s.first + s.delta ∧ s.last + s.delta < 0x110000))) := by
  decide +kernel

/-- Outside ASCII a character has a small letter outside ASCII, or one of the letters `i` and `k`. -/
theorem lowerLetter_above {c : Char} (hc : 0x80 ≤ c.toNat) :
    0x80 ≤ (lowerLetter c).toNat ∨ lowerLetter c = 'i' ∨ lowerLetter c = 'k' := by
  unfold lowerLetter
  rw [if_neg (Nat.not_lt.mpr hc)]
  split
  · exact Or.inr (Or.inl rfl)
  · split
    · rename_i s hs
      unfold shiftOf? at hs
      have hholds := List.find?_some hs
      simp only [CaseShift.holds, Bool.and_eq_true, decide_eq_true_eq] at hholds
      rcases lowerShifts_above s (List.mem_of_find?_eq_some hs) with hascii | rfl | ⟨habove, hvalid⟩
      · omega
      · have hkelvin : c.toNat = 0x212A := Nat.le_antisymm hholds.1.2 hholds.1.1
        rw [hkelvin]
        exact Or.inr (Or.inr rfl)
      · refine Or.inl ?_
        have hisValid : (c.toNat + s.delta).toNat.isValidChar := by
          unfold Nat.isValidChar
          omega
        unfold CaseShift.move
        rw [Char.toNat_ofNat, if_pos hisValid]
        omega
    · exact Or.inl hc

/-- A character of ASCII has its small letter as its small form. Outside ASCII small forms stay outside, but
for the letters `i` and `k`. -/
theorem mem_lowerChar {c d : Char} (h : d ∈ lowerChar c) :
    (c.toNat < 0x80 ∧ d = c.toLower) ∨ (0x80 ≤ c.toNat ∧ (0x80 ≤ d.toNat ∨ d = 'i' ∨ d = 'k')) := by
  unfold lowerChar at h
  split at h
  · rename_i hdotted
    rw [eq_of_beq hdotted]
    refine Or.inr ⟨by decide, ?_⟩
    rcases List.mem_cons.mp h with rfl | h
    · exact Or.inr (Or.inl rfl)
    · rw [List.mem_singleton.mp h]
      exact Or.inl (by decide)
  · rw [List.mem_singleton.mp h]
    by_cases habove : 0x80 ≤ c.toNat
    · exact Or.inr ⟨habove, lowerLetter_above habove⟩
    · rw [not_le] at habove
      exact Or.inl ⟨habove, by unfold lowerLetter; rw [if_pos habove]⟩

/-- So it is in every context. -/
theorem mem_lowerAt {before after : List Char} {c d : Char} (h : d ∈ lowerAt before c after) :
    (c.toNat < 0x80 ∧ d = c.toLower) ∨ (0x80 ≤ c.toNat ∧ (0x80 ≤ d.toNat ∨ d = 'i' ∨ d = 'k')) := by
  unfold lowerAt at h
  split at h
  · rename_i hsigma
    rw [eq_of_beq hsigma, List.mem_singleton.mp h]
    refine Or.inr ⟨by decide, Or.inl ?_⟩
    unfold sigmaBetween
    split <;> decide
  · exact mem_lowerChar h

/-- In ASCII the context does not matter. -/
theorem lowerAt_of_lt (before after : List Char) {c : Char} (hc : c.toNat < 0x80) :
    lowerAt before c after = [c.toLower] := by
  have hsigma : (c == 'Σ') = false := by
    rw [beq_eq_false_iff_ne]
    rintro rfl
    exact absurd hc (by decide)
  have hdotted : (c == 'İ') = false := by
    rw [beq_eq_false_iff_ne]
    rintro rfl
    exact absurd hc (by decide)
  unfold lowerAt lowerChar lowerLetter
  rw [if_neg (by simp [hsigma]), if_neg (by simp [hdotted]), if_pos hc]

/-- Digits and blanks of any script lie apart from the capitals. -/
theorem lowerShifts_apart : ∀ s ∈ lowerShifts,
    s.last < 0x80 ∨
      ((∀ z ∈ digitZeros, s.last < z ∨ z + 10 ≤ s.first) ∧ ∀ b ∈ blankRanges, s.last < b.1 ∨ b.2 < s.first) := by
  decide +kernel

theorem shiftOf?_of_numeral {c : Char} (h : isDecimal c ∨ isNumeralBlank c) (hc : 0x80 ≤ c.toNat) :
    shiftOf? lowerShifts c.toNat = none := by
  unfold shiftOf?
  rw [List.find?_eq_none]
  intro s hs hholds
  simp only [CaseShift.holds, Bool.and_eq_true, decide_eq_true_eq] at hholds
  rcases lowerShifts_apart s hs with hascii | ⟨hdigits, hblanks⟩
  · omega
  rcases h with hdigit | hblank
  · unfold isDecimal decimalValue? at hdigit
    rw [Option.isSome_map, List.find?_isSome] at hdigit
    obtain ⟨z, hz, hrange⟩ := hdigit
    simp only [Bool.and_eq_true, decide_eq_true_eq] at hrange
    have := hdigits z hz
    omega
  · unfold isNumeralBlank isBlank Ranges.has at hblank
    rw [if_neg (Nat.not_lt.mpr hc), List.any_eq_true] at hblank
    obtain ⟨b, hb, hrange⟩ := hblank
    simp only [Bool.and_eq_true, decide_eq_true_eq] at hrange
    have := hblanks b hb
    omega

/-- A digit or blank of any script is its own small form. -/
theorem lowerAt_of_numeral (before after : List Char) {c : Char} (h : isDecimal c ∨ isNumeralBlank c) :
    lowerAt before c after = [c] := by
  by_cases habove : 0x80 ≤ c.toNat
  · have hsigma : (c == 'Σ') = false := by
      rw [beq_eq_false_iff_ne]
      rintro rfl
      exact absurd h (by decide +kernel)
    have hdotted : (c == 'İ') = false := by
      rw [beq_eq_false_iff_ne]
      rintro rfl
      exact absurd h (by decide +kernel)
    unfold lowerAt lowerChar lowerLetter
    rw [if_neg (by simp [hsigma]), if_neg (by simp [hdotted]), if_neg (Nat.not_lt.mpr habove),
      if_neg (by simp [hdotted]), shiftOf?_of_numeral h habove]
  · have hascii := Nat.lt_of_not_le habove
    rw [lowerAt_of_lt before after hascii]
    have hsame := forall_ascii (P := fun c => isDecimal c ∨ isNumeralBlank c → c.toLower = c)
      (by decide +kernel) hascii
    rw [hsame h]

/-- The small form of a letter or number of any script is made of letters and digits of ASCII and of
characters outside ASCII. -/
theorem alphanum_or_above_of_mem_lowerChar {c d : Char} (hc : isLetter c ∨ isNumber c)
    (hd : d ∈ lowerChar c) : d.isAlphanum ∨ 0x80 ≤ d.toNat := by
  rcases mem_lowerChar hd with ⟨hascii, rfl⟩ | ⟨_, habove | rfl | rfl⟩
  · unfold isLetter isNumber at hc
    rw [if_pos hascii, if_pos hascii] at hc
    have hsmall := forall_ascii (P := fun c => c.isAlpha = true ∨ c.isDigit = true →
      c.toLower.isAlphanum = true) (by decide +kernel) hascii
    exact Or.inl (hsmall hc)
  · exact Or.inr habove
  · exact Or.inl (by decide)
  · exact Or.inl (by decide)

end WordLint.Text
