import WordLint.Proofs.Pattern.Spans

/-!
# Plain patterns are searched for naively

A naive search goes through a text from left to right. Where the text goes on with the part that is looked for,
it has found a place, and goes on behind that place; elsewhere it goes on one character further (`placesFrom`,
with the equations `placesFrom_found` and `placesFrom_missed`). So places that overlap one found before are
passed over.

The scan of a pattern of plain characters makes the same steps: a search that fails at a position is the search
from the next one (`Scans.step_over`), and a match ends behind the last character of the pattern. So the scan
finds the places of the naive search (`spans_literals`).

**The law** (`occurrences_naive`): each of some patterns whose small forms are made of letters, numbers, hyphens,
underscores and blanks finds its small form as often as the naive search finds it in the small form of the text.
-/

namespace WordLint

/-! ## Naive search -/

namespace Text

/-- The places of a part in a text, from left to right, no two of them overlapping. The text starts at the
position `here`, and `covered` of its characters belong to the place that was found last. -/
def placesFrom (part : List Char) : (here covered : Nat) → List Char → List Nat
  | _, _, [] => []
  | here, covered + 1, _ :: rest => placesFrom part (here + 1) covered rest
  | here, 0, c :: rest =>
    if part <+: c :: rest then here :: placesFrom part (here + 1) (part.length - 1) rest
    else placesFrom part (here + 1) 0 rest

/-- The places of a part in a whole text. -/
def placesOf (part text : List Char) : List Nat :=
  placesFrom part 0 0 text

variable {part : List Char}

/-- The characters of the place that was found last are passed over. -/
theorem placesFrom_covered (part : List Char) (here covered : Nat) (text : List Char) :
    placesFrom part here covered text = placesFrom part (here + covered) 0 (text.drop covered) := by
  induction text generalizing here covered with
  | nil => simp [placesFrom]
  | cons c rest ih =>
    cases covered with
    | zero => rfl
    | succ covered =>
      rw [placesFrom, ih, List.drop_succ_cons, Nat.add_assoc, Nat.add_comm 1]

/-- Where the text goes on with the part there is a place, and the search goes on behind it. -/
theorem placesFrom_found {text : List Char} (hpart : part ≠ []) (h : part <+: text) (here : Nat) :
    placesFrom part here 0 text =
      here :: placesFrom part (here + part.length) 0 (text.drop part.length) := by
  cases text with
  | nil => exact absurd (List.prefix_nil.mp h) hpart
  | cons c rest =>
    obtain ⟨n, hlength⟩ := Nat.exists_eq_succ_of_ne_zero (List.length_pos_iff.mpr hpart).ne'
    rw [placesFrom, if_pos h, placesFrom_covered, hlength, Nat.succ_eq_add_one, Nat.add_sub_cancel,
      List.drop_succ_cons, Nat.add_assoc, Nat.add_comm 1]

/-- Elsewhere the search goes on one character further. -/
theorem placesFrom_missed {c : Char} {rest : List Char} (h : ¬ part <+: c :: rest) (here : Nat) :
    placesFrom part here 0 (c :: rest) = placesFrom part (here + 1) 0 rest := by
  rw [placesFrom, if_neg h]

end Text

/-! ## The scan of plain characters -/

namespace Regex

variable {e : Compiled} {text : Array Char} {start : Nat} {spans : List (Nat × Nat)}

/-- Where there is no match, a scan is the one that starts at the next position. -/
theorem Compiled.Scans.step_over (hnone : e.matchEnd? text start false = none) (hstart : start < text.size)
    (h : e.Scans text (start + 1) false spans) : e.Scans text start false spans := by
  have hfirst : e.firstFrom text (text.size + 1 - start) start false =
      e.firstFrom text (text.size + 1 - (start + 1)) (start + 1) false := by
    have hcount : text.size + 1 - start = text.size + 1 - (start + 1) + 1 := by omega
    rw [hcount, firstFrom, hnone]
  cases h with
  | failed h => exact .failed (hfirst.trans h)
  | found h hrest => exact .found (hfirst.trans h) hrest

/-- The span of plain characters at a place. -/
def placeSpan (cs : List Char) (place : Nat) : Nat × Nat :=
  (place, place + cs.length)

/-- **The scan of plain characters** finds the places of the naive search. The induction is on the characters that
are left. -/
theorem scans_literals {cs : List Char} (hcs : cs ≠ []) (left start : Nat) (h : start + left = text.size) :
    (Compiled.mk (catAll (literals cs)) []).Scans text start false
      ((Text.placesFrom cs start 0 (text.toList.drop start)).map (placeSpan cs)) := by
  induction left using Nat.strong_induction_on generalizing start with
  | _ left ih =>
    have hlength := List.length_pos_iff.mpr hcs
    have hmatch : (Compiled.mk (catAll (literals cs)) []).matchEnd? text start false = _ :=
      matchEnd?_literals hcs start false
    by_cases hprefix : cs <+: text.toList.drop start
    · have hinside : cs.length ≤ left := by
        have hle := hprefix.length_le
        simp only [List.length_drop, Array.length_toList] at hle
        omega
      rw [if_pos hprefix] at hmatch
      have hmore := ih (left - cs.length) (by omega) (start + cs.length) (by omega)
      have hmoved : (start == start + cs.length) = false := by
        rw [beq_eq_false_iff_ne]
        omega
      rw [Text.placesFrom_found hcs hprefix, List.drop_drop, List.map_cons]
      refine .found ?_ (by rw [hmoved]; exact hmore)
      have hcount : text.size + 1 - start = left + 1 := by omega
      rw [hcount, Compiled.firstFrom, hmatch]
    · rw [if_neg hprefix] at hmatch
      cases hrest : text.toList.drop start with
      | nil =>
        have hend : text.size + 1 - start = 1 := by
          have hle := List.drop_eq_nil_iff.mp hrest
          rw [Array.length_toList] at hle
          omega
        refine .failed ?_
        rw [hend, Compiled.firstFrom, hmatch, Compiled.firstFrom]
      | cons c rest =>
        have hlt : start < text.size := by
          by_contra hge
          rw [List.drop_of_length_le (by rw [Array.length_toList]; omega)] at hrest
          cases hrest
        have hnext : text.toList.drop (start + 1) = rest := by
          rw [← List.drop_drop, hrest]
          rfl
        have hmore := ih (left - 1) (by omega) (start + 1) (by omega)
        rw [hnext] at hmore
        rw [hrest] at hprefix
        rw [Text.placesFrom_missed hprefix]
        exact hmore.step_over hmatch hlt

/-- The spans of plain characters in a text are the places of the naive search. -/
theorem spans_literals {cs : List Char} (hcs : cs ≠ []) (text : Array Char) :
    (Compiled.mk (catAll (literals cs)) []).spans text =
      (Text.placesOf cs text.toList).map (placeSpan cs) := by
  refine (scans_literals hcs text.size 0 (Nat.zero_add _)).eq_spansFrom (Nat.zero_le _) ?_
  unfold searchesLeft
  rw [if_neg Bool.false_ne_true]
  omega

end Regex

/-! ## Plain patterns -/

/-- Letters and numbers of any script, hyphens, underscores and blanks. -/
def IsWordSign (c : Char) : Prop :=
  Text.isLetter c ∨ Text.isNumber c ∨ c = '-' ∨ c = '_' ∨ Text.isBlank c

instance (c : Char) : Decidable (IsWordSign c) :=
  inferInstanceAs (Decidable (_ ∨ _ ∨ _ ∨ _ ∨ _))

/-- None of them has a meaning of its own in a pattern. -/
theorem IsWordSign.plain {c : Char} (h : IsWordSign c) : Regex.Plain c := by
  have hword : Text.isLetter c ∨ Text.isNumber c → Regex.Plain c := by
    intro h
    refine Regex.plain_of_alphanum_or_above ?_
    by_cases hascii : c.toNat < 0x80
    · unfold Text.isLetter Text.isNumber at h
      rw [if_pos hascii, if_pos hascii] at h
      exact .inl (by simpa [Char.isAlphanum] using h)
    · exact .inr (Nat.le_of_not_lt hascii)
  rcases h with hletter | hnumber | rfl | rfl | hblank
  · exact hword (.inl hletter)
  · exact hword (.inr hnumber)
  · decide
  · decide
  · have hsigns : (Regex.signs.all fun d => !Text.isBlank d) = true := by decide +kernel
    intro hmem
    have hother := List.all_eq_true.mp hsigns c hmem
    rw [hblank] at hother
    cases hother

/-- A pattern that is not empty, with a small form of letters, numbers, hyphens, underscores and blanks. -/
def IsPlainPattern (p : String) : Prop :=
  p ≠ "" ∧ ∀ c ∈ (Text.lower p).toList, IsWordSign c

instance (p : String) : Decidable (IsPlainPattern p) :=
  @instDecidableAnd _ _ inferInstance (List.decidableBAll _ _)

/-- What is said of an occurrence of a plain pattern: its small form, found by the pattern that reads as it
stands there. -/
def plainOccurrence (p : String) : Occurrence :=
  ⟨Text.lower p, ⟨Text.lower p, wordExpression p⟩⟩

/-- How often the naive search finds the small form of a pattern in that of a text. -/
def plainCount (text p : String) : Nat :=
  (Text.placesOf (Text.lower p).toList (Text.lower text).toList).length

/-- One plain pattern: it finds its small form at the places of the naive search. -/
theorem occurrences_plain {p : String} (h : IsPlainPattern p) (text : String) :
    occurrences text [p] = .ok (List.replicate (plainCount text p) (plainOccurrence p)) := by
  obtain ⟨hne, hsigns⟩ := h
  unfold Text.lower at hsigns
  rw [String.toList_ofList] at hsigns
  have hsmall : Text.lowerAfter [] p.toList ≠ [] :=
    Text.lowerAfter_ne_nil (fun hnil => hne (String.toList_eq_nil_iff.mp hnil)) []
  have hread : Regex.compile (Text.lower p) = .ok (wordExpression p) :=
    Regex.compile_plain fun c hc => (hsigns c hc).plain
  have hcount : ((wordExpression p).spans (searchedText text)).length = plainCount text p := by
    unfold wordExpression plainCount
    rw [Regex.spans_literals hsmall, List.length_map, toList_searchedText]
    simp only [Text.lower, String.toList_ofList]
  rw [occurrences_single hread, ← hcount]
  refine congrArg Except.ok (List.eq_replicate_iff.mpr ⟨List.length_map _, fun o ho => ?_⟩)
  obtain ⟨span, hspan, rfl⟩ := List.mem_map.mp ho
  rw [Regex.spanText_of_mem_spans_literals hsmall hspan]
  rfl

/-- **Plain patterns are searched for naively.** Pattern by pattern, in the order of the list, there are as many
occurrences as the naive search finds in the small form of the text, each of them the small form of its
pattern. -/
theorem occurrences_naive (text : String) {patterns : List String} (h : ∀ p ∈ patterns, IsPlainPattern p) :
    occurrences text patterns =
      .ok (patterns.flatMap fun p => List.replicate (plainCount text p) (plainOccurrence p)) := by
  induction patterns with
  | nil => rfl
  | cons p rest ih =>
    obtain ⟨hp, hrest⟩ := List.forall_mem_cons.mp h
    rw [← List.singleton_append, occurrences_append (occurrences_plain hp text) (ih hrest),
      List.flatMap_append, List.flatMap_singleton]

/-- A word that overlaps itself, and one with the capital `K` of the Kelvin scale: of the five places of `aba` the
two that overlap one before are passed over. -/
theorem occurrences_naive_overlapping :
    (∀ p ∈ ["aBa", "\u212A-_ 1"], IsPlainPattern p) ∧
      occurrences "ABABABABABA k-_ 1" ["aBa", "\u212A-_ 1"] =
        .ok (List.replicate 3 (plainOccurrence "aba") ++ [plainOccurrence "k-_ 1"]) := by
  have hplain : ∀ p ∈ ["aBa", "\u212A-_ 1"], IsPlainPattern p := by decide +kernel
  refine ⟨hplain, (occurrences_naive _ hplain).trans ?_⟩
  decide +kernel

end WordLint
