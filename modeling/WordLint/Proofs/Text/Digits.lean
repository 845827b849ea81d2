import WordLint.Proofs.Text.LetterCase

/-!
# Digit signs and the numbers they denote

The signs that denote a digit lie in blocks of code points (`digitBlocks`), apart from the letters that have
capitals, from these capitals, and from the blanks of numerals. So a text of digit signs is its own capital form
(`upper_digitSigns`), and no other text has a capital form of digit signs (`forall_upper_iff`).

**The law**: a text of decimal digits, of whatever scripts, is read as the number that it denotes in positional
notation, first digit first, unless there are too many of them (`readInt_decimals`). With another digit sign among
them a text is no numeral (`readInt_digitSigns`).
-/

namespace WordLint.Text

variable {c : Char} {cs : List Char}

/-! ## Blocks of digit signs -/

/-- No code point of a run is in the set. -/
def Ranges.apart (ranges : Ranges) (low high : Nat) : Bool :=
  ranges.all fun r => Nat.blt high r.1 || Nat.blt r.2 low

theorem Ranges.has_eq_false_of_apart {ranges : Ranges} {low high : Nat} (h : ranges.apart low high = true)
    (hlow : low ≤ c.toNat) (hhigh : c.toNat ≤ high) : ranges.has c = false := by
  unfold Ranges.apart at h
  unfold Ranges.has
  rw [List.all_eq_true] at h
  rw [List.any_eq_false]
  intro r hr hheld
  have hapart := h r hr
  simp only [Bool.or_eq_true, Nat.blt_eq, Bool.and_eq_true, decide_eq_true_eq] at hapart hheld
  omega

/-- The code points of the digit signs: ten from each zero on, and those of the other signs. -/
def digitBlocks : Ranges :=
  digitZeros.map (fun z => (z, z + 9)) ++ digitSignRanges

theorem isDigitSign_eq (c : Char) : isDigitSign c = digitBlocks.has c := by
  unfold isDigitSign isDecimal decimalValue? Ranges.has digitBlocks
  rw [Option.isSome_map, List.isSome_find?, List.any_append, List.any_map]
  simp only [Function.comp_def, Nat.lt_succ_iff]

theorem isDigitSign_of_isDecimal (h : isDecimal c = true) : isDigitSign c = true := by
  rw [isDigitSign, h, Bool.true_or]

/-! ## Capitals -/

/-- Digit signs lie apart from the letters with a capital of one character, from these capitals, and from the
letters with a longer capital; that one is not made of digit signs either. They lie apart from the blanks. -/
theorem digitBlocks_apart :
    (∀ s ∈ upperShifts, digitBlocks.apart s.first s.last = true ∧
      digitBlocks.apart (s.first + s.delta).toNat (s.last + s.delta).toNat = true) ∧
    (∀ x ∈ upperExpansions, digitBlocks.apart x.1 x.1 = true ∧
      ∃ n ∈ x.2, isDigitSign (Char.ofNat n) = false) ∧
    ∀ r ∈ blankRanges, digitBlocks.apart r.1 r.2 = true := by
  decide +kernel

/-- The digit signs of ASCII are their own capitals and no blanks, and no other character has one as its capital. -/
theorem digitSigns_ascii (hascii : c.toNat < 0x80) :
    (isDigitSign c = true → c.toUpper = c ∧ isNumeralBlank c = false) ∧
      (isDigitSign c = false → isDigitSign c.toUpper = false) := by
  revert hascii
  exact forall_ascii (P := fun c => (isDigitSign c = true → c.toUpper = c ∧ isNumeralBlank c = false) ∧
    (isDigitSign c = false → isDigitSign c.toUpper = false)) (by decide +kernel)

/-- A digit sign is its own capital. -/
theorem upperChar_digitSign (h : isDigitSign c = true) : upperChar c = [c] := by
  unfold upperChar
  by_cases hascii : c.toNat < 0x80
  · rw [if_pos hascii, ((digitSigns_ascii hascii).1 h).1]
  · rw [isDigitSign_eq] at h
    rw [if_neg hascii]
    have hexpansion : upperExpansions.lookup c.toNat = none := by
      rw [List.lookup_eq_none_iff]
      intro x hx
      have hapart := digitBlocks_apart.2.1 x hx
      rw [bne_iff_ne]
      rintro heq
      rw [Ranges.has_eq_false_of_apart hapart.1 heq.ge heq.le] at h
      cases h
    have hshift : shiftOf? upperShifts c.toNat = none := by
      unfold shiftOf?
      rw [List.find?_eq_none]
      intro s hs hholds
      simp only [CaseShift.holds, Bool.and_eq_true, decide_eq_true_eq] at hholds
      rw [Ranges.has_eq_false_of_apart (digitBlocks_apart.1 s hs).1 hholds.1.1 hholds.1.2] at h
      cases h
    rw [hexpansion, hshift]

/-- Any other character has a capital with a character that is no digit sign. -/
theorem exists_mem_upperChar (h : isDigitSign c = false) : ∃ d ∈ upperChar c, isDigitSign d = false := by
  unfold upperChar
  by_cases hascii : c.toNat < 0x80
  · rw [if_pos hascii]
    exact ⟨_, List.mem_singleton_self _, (digitSigns_ascii hascii).2 h⟩
  · rw [if_neg hascii]
    split
    · rename_i ns hns
      obtain ⟨before, after, hsplit, _⟩ := List.lookup_eq_some_iff.mp hns
      have hmem : (c.toNat, ns) ∈ upperExpansions := by rw [hsplit]; simp
      obtain ⟨n, hn, hsign⟩ := (digitBlocks_apart.2.1 _ hmem).2
      exact ⟨Char.ofNat n, List.mem_map.mpr ⟨n, hn, rfl⟩, hsign⟩
    · split
      · rename_i s hs
        unfold shiftOf? at hs
        have hholds := List.find?_some hs
        simp only [CaseShift.holds, Bool.and_eq_true, decide_eq_true_eq] at hholds
        have hapart := (digitBlocks_apart.1 s (List.mem_of_find?_eq_some hs)).2
        refine ⟨_, List.mem_singleton_self _, ?_⟩
        rcases s.move_cases c.toNat with hcode | hnull
        · rw [isDigitSign_eq]
          exact Ranges.has_eq_false_of_apart hapart (by omega) (by omega)
        · rw [hnull]
          rfl
      · exact ⟨c, List.mem_singleton_self _, h⟩

theorem upper_digitSigns (h : ∀ c ∈ cs, isDigitSign c = true) : upper cs = cs := by
  unfold upper
  induction cs with
  | nil => rfl
  | cons c rest ih =>
    obtain ⟨hc, hrest⟩ := List.forall_mem_cons.mp h
    rw [List.flatMap_cons, upperChar_digitSign hc, ih hrest, List.singleton_append]

/-- A capital form is made of digit signs exactly when the text is. -/
theorem forall_upper_iff : (∀ d ∈ upper cs, isDigitSign d = true) ↔ ∀ c ∈ cs, isDigitSign c = true := by
  constructor
  · intro h c hc
    by_contra hother
    obtain ⟨d, hd, hsign⟩ := exists_mem_upperChar (Bool.eq_false_iff.mpr hother)
    rw [h d (List.mem_flatMap.mpr ⟨c, hc, hd⟩)] at hsign
    cases hsign
  · intro h
    rw [upper_digitSigns h]
    exact h

/-- Only the empty text has an empty capital form. -/
theorem upper_eq_nil_iff : upper cs = [] ↔ cs = [] := by
  constructor
  · intro h
    have hsigns : ∀ c ∈ cs, isDigitSign c = true := forall_upper_iff.mp (by rw [h]; exact nofun)
    rwa [upper_digitSigns hsigns] at h
  · rintro rfl
    rfl

/-! ## Numbers -/

/-- The digit that a decimal digit denotes. -/
def digitOf (c : Char) : Nat :=
  (decimalValue? c).getD 0

/-- The number that some decimal digits denote in positional notation, the first one counting most. -/
def numberOf (cs : List Char) : Nat :=
  Nat.ofDigits 10 (cs.map digitOf).reverse

theorem ofDigits_eq (digits : List Nat) : ofDigits digits = Nat.ofDigits 10 digits.reverse := by
  rw [Nat.ofDigits_eq_foldr, List.foldr_reverse, ofDigits]
  simp only [Nat.add_comm, Nat.cast_id]

theorem decimalValue?_eq (h : isDecimal c = true) : decimalValue? c = some (digitOf c) := by
  rw [isDecimal] at h
  obtain ⟨digit, hdigit⟩ := Option.isSome_iff_exists.mp h
  rw [digitOf, hdigit, Option.getD_some]

/-- The digits of ASCII are decimal digits, and denote how far they are from the first of them. -/
theorem digits_ascii (h : c.isDigit = true) : isDecimal c = true ∧ digitOf c = c.toNat - '0'.toNat := by
  have hascii : c.toNat < 0x80 := toNat_lt_of_isAlphanum (by rw [Char.isAlphanum, h, Bool.or_true])
  revert h
  exact forall_ascii (P := fun c => c.isDigit = true → isDecimal c = true ∧ digitOf c = c.toNat - '0'.toNat)
    (by decide +kernel) hascii

/-- Among the characters of ASCII there are no other digit signs. -/
theorem isDigit_of_ascii (h : isDigitSign c = true) (hascii : c.toNat < 0x80) : c.isDigit = true := by
  revert h
  exact forall_ascii (P := fun c => isDigitSign c = true → c.isDigit = true) (by decide +kernel) hascii

/-- Digits of ASCII denote the number that they are the numeral of. -/
theorem numberOf_ascii (h : ∀ c ∈ cs, c.isDigit = true) : numberOf cs = Nat.ofDigitChars 10 cs 0 := by
  have hdigits : cs.map digitOf = cs.map fun c => c.toNat - '0'.toNat :=
    List.map_congr_left fun c hc => (digits_ascii (h c hc)).2
  rw [numberOf, ← ofDigits_eq, hdigits, ofDigits, List.foldl_map, Nat.ofDigitChars_eq_foldl]

/-- A run of decimal digits without underscores. -/
theorem digitValues?_decimals (hne : cs ≠ []) (h : ∀ c ∈ cs, isDecimal c = true) :
    digitValues? cs = some (cs.map digitOf) := by
  fun_induction digitValues? cs with
  | case1 => exact absurd rfl hne
  | case2 c => rw [decimalValue?_eq (h c List.mem_cons_self)]; rfl
  | case3 c rest => exact absurd (h '_' (by simp)) (by decide)
  | case4 c rest hlast _ ih =>
    obtain ⟨hc, hrest⟩ := List.forall_mem_cons.mp h
    rw [decimalValue?_eq hc, ih (fun hnil => hlast hnil) hrest]
    rfl

/-! ## Numerals of digit signs -/

theorem isBlank_digitSign (h : isDigitSign c = true) : isBlank c = false := by
  unfold isBlank
  by_contra hblank
  obtain ⟨r, hr, hheld⟩ := List.any_eq_true.mp (Bool.eq_true_of_not_eq_false hblank)
  simp only [Bool.and_eq_true, decide_eq_true_eq] at hheld
  rw [isDigitSign_eq, Ranges.has_eq_false_of_apart (digitBlocks_apart.2.2 r hr) hheld.1 hheld.2] at h
  cases h

theorem isNumeralBlank_digitSign (h : isDigitSign c = true) : isNumeralBlank c = false := by
  by_cases hascii : c.toNat < 0x80
  · exact ((digitSigns_ascii hascii).1 h).2
  · rw [isNumeralBlank, if_neg hascii, isBlank_digitSign h]

/-- No blank is taken off a text of digit signs. -/
theorem dropWhile_digitSigns (h : ∀ c ∈ cs, isDigitSign c = true) : cs.dropWhile isNumeralBlank = cs := by
  rw [List.dropWhile_eq_self_iff]
  intro hlength
  rw [isNumeralBlank_digitSign (h _ (List.getElem_mem hlength))]
  exact Bool.false_ne_true

/-- No digit sign is the sign of a number. -/
theorem splitSign_digitSigns (h : ∀ c ∈ cs, isDigitSign c = true) : splitSign cs = (false, cs) := by
  unfold splitSign
  split
  · exact absurd (h '-' List.mem_cons_self) (by decide)
  · exact absurd (h '+' List.mem_cons_self) (by decide)
  · rfl

/-- A text of digit signs is read as a run of digits, as it stands. -/
theorem readInt_run (h : ∀ c ∈ cs, isDigitSign c = true) :
    readInt cs = match digitValues? cs with
      | none => .error (readError cs cs)
      | some values =>
        if maxDigits < values.length then .error (.tooLong values.length) else .ok (ofDigits values) := by
  have hreverse : ∀ c ∈ cs.reverse, isDigitSign c = true := fun c hc => h c (List.mem_reverse.mp hc)
  have htrimmed : ((cs.dropWhile isNumeralBlank).reverse.dropWhile isNumeralBlank).reverse = cs := by
    rw [dropWhile_digitSigns h, dropWhile_digitSigns hreverse, List.reverse_reverse]
  unfold readInt
  dsimp only
  rw [htrimmed, splitSign_digitSigns h]
  cases digitValues? cs with
  | none => rfl
  | some values => rfl

/-- **Decimal digits of any script** are read as the number that they denote, unless there are too many. -/
theorem readInt_decimals (hne : cs ≠ []) (h : ∀ c ∈ cs, isDecimal c = true) :
    readInt cs = if maxDigits < cs.length then .error (.tooLong cs.length) else .ok (numberOf cs) := by
  rw [readInt_run fun c hc => isDigitSign_of_isDecimal (h c hc), digitValues?_decimals hne h]
  simp only [List.length_map, ofDigits_eq, numberOf]

/-- **Digit signs**, one of them no decimal digit, are no numeral. -/
theorem readInt_digitSigns (h : ∀ c ∈ cs, isDigitSign c = true) (hother : ∃ c ∈ cs, isDecimal c = false) :
    readInt cs = .error (readError cs cs) := by
  obtain ⟨c, hc, hdecimal⟩ := hother
  have hnone : digitValues? cs = none := by
    by_contra hsome
    obtain ⟨values, hvalues⟩ := Option.ne_none_iff_exists'.mp hsome
    rcases digitValues?_chars hvalues c hc with htrue | rfl
    · rw [hdecimal] at htrue
      cases htrue
    · exact absurd (h '_' hc) (by decide)
  rw [readInt_run h, hnone]

end WordLint.Text
