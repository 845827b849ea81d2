import Mathlib
import WordLint.Markup.Reference.Basic

/-!
# Which texts can be decoded, and what comes back

A text is escaped by writing references for the four characters that mean something in markup.
**Decoding undoes escaping** (`decode_escape`), for every text: an ampersand of an escaped text is the
front of one of the four references.

**Which texts cannot be decoded** (`decode_isOk_iff`): those with a decimal reference of more digits than
are read, and no others. A reference that is replaced contains no further ampersand, so no reference is
passed over.
-/

namespace WordLint.Reference

/-! ## Escaping -/

/-- What is written for a character. -/
def escapeChar (c : Char) : List Char :=
  if c = '&' then ['&', 'a', 'm', 'p', ';']
  else if c = '<' then ['&', 'l', 't', ';']
  else if c = '>' then ['&', 'g', 't', ';']
  else if c = '"' then ['&', 'q', 'u', 'o', 't', ';']
  else [c]

/-- A text with references for the characters that mean something in markup. -/
def escape (cs : List Char) : List Char :=
  cs.flatMap escapeChar

/-- No quote is left in an escaped text. -/
theorem quote_not_mem_escape (cs : List Char) : '"' ∉ escape cs := by
  unfold escape
  rw [List.mem_flatMap]
  rintro ⟨c, _, hc⟩
  unfold escapeChar at hc
  split at hc
  · revert hc
    decide
  · split at hc
    · revert hc
      decide
    · split at hc
      · revert hc
        decide
      · split at hc
        · revert hc
          decide
        · rename_i hquote
          exact hquote (List.mem_singleton.mp hc).symm

/-! ## Steps of decoding -/

theorem decode_nil : decode [] = .ok [] := by
  rw [decode]

/-- Any other character than an ampersand stays as it is. -/
theorem decode_cons {c : Char} (rest : List Char) (hc : c ≠ '&') :
    decode (c :: rest) = do return c :: (← decode rest) := by
  rw [decode, if_neg hc]

/-- A reference is replaced by what it stands for. -/
theorem decode_found {rest : List Char} {found : Found} (hfind : find? rest = .ok (some found)) :
    decode ('&' :: rest) = do return found.meaning ++ (← decode (rest.drop found.length)) := by
  rw [decode, if_pos rfl, hfind]
  rfl

/-- An ampersand that begins no reference stays as it is. -/
theorem decode_plain {rest : List Char} (hfind : find? rest = .ok none) :
    decode ('&' :: rest) = do return '&' :: (← decode rest) := by
  rw [decode, if_pos rfl, hfind]
  rfl

/-- A reference that cannot be read is passed on. -/
theorem decode_error {rest : List Char} {e : Text.NumeralError} (hfind : find? rest = .error e) :
    decode ('&' :: rest) = .error e := by
  rw [decode, if_pos rfl, hfind]
  rfl

/-- Putting something in front of a result does not change whether there is one. -/
theorem isOk_front_iff {ε α β : Type} (f : α → β) (x : Except ε α) :
    (∃ b, (do return f (← x) : Except ε β) = .ok b) ↔ ∃ a, x = .ok a := by
  cases x with
  | error e =>
    constructor
    · rintro ⟨b, hb⟩
      cases hb
    · rintro ⟨a, ha⟩
      cases ha
  | ok a => exact ⟨fun _ => ⟨a, rfl⟩, fun _ => ⟨f a, rfl⟩⟩

/-! ## Decoding undoes escaping -/

/-- A reference that is read as a character, with the text behind it. -/
theorem decode_written {word rest ds : List Char} {c : Char}
    (hfind : find? (word ++ rest) = .ok (some ⟨[c], word.length⟩)) (h : decode rest = .ok ds) :
    decode ('&' :: (word ++ rest)) = .ok (c :: ds) := by
  rw [decode_found hfind]
  show (do return [c] ++ (← decode ((word ++ rest).drop word.length))) = _
  rw [List.drop_left, h]
  rfl

/-- What is written for a character is read back, whatever follows. -/
theorem decode_escapeChar (c : Char) {rest ds : List Char} (h : decode rest = .ok ds) :
    decode (escapeChar c ++ rest) = .ok (c :: ds) := by
  unfold escapeChar
  split
  · rename_i hc
    subst hc
    exact @decode_written ['a', 'm', 'p', ';'] rest ds '&' rfl h
  · split
    · rename_i hc
      subst hc
      exact @decode_written ['l', 't', ';'] rest ds '<' rfl h
    · split
      · rename_i hc
        subst hc
        exact @decode_written ['g', 't', ';'] rest ds '>' rfl h
      · split
        · rename_i hc
          subst hc
          exact @decode_written ['q', 'u', 'o', 't', ';'] rest ds '"' rfl h
        · rw [List.singleton_append, decode_cons rest ‹_›, h]
          rfl

/-- **Decoding undoes escaping.** -/
theorem decode_escape (cs : List Char) : decode (escape cs) = .ok cs := by
  induction cs with
  | nil => exact decode_nil
  | cons c rest ih => exact decode_escapeChar c ih

/-! ## References that are too long -/

/-- A text holds a decimal reference with more digits than are read. -/
def Overlong (cs : List Char) : Prop :=
  ∃ before digits behind, cs = before ++ '&' :: '#' :: (digits ++ behind) ∧
    (∀ d ∈ digits, d.isDigit = true) ∧ Text.maxDigits < digits.length

/-- Characters without an ampersand hold no part of a reference that is too long. -/
theorem overlong_append {front cs : List Char} (hfront : '&' ∉ front) :
    Overlong (front ++ cs) ↔ Overlong cs := by
  constructor
  · rintro ⟨before, digits, behind, heq, hdigits, hlong⟩
    -- the ampersand of the reference is behind the front, so the front is all in `before`
    rcases List.append_eq_append_iff.mp heq with ⟨more, rfl, hcs⟩ | ⟨more, rfl, hmore⟩
    · exact ⟨more, digits, behind, hcs, hdigits, hlong⟩
    · cases more with
      | nil =>
        rw [List.nil_append] at hmore
        exact ⟨[], digits, behind, hmore.symm, hdigits, hlong⟩
      | cons c more =>
        obtain ⟨rfl, _⟩ := List.cons.inj hmore
        exact absurd (List.mem_append_right _ List.mem_cons_self) hfront
  · rintro ⟨before, digits, behind, rfl, hdigits, hlong⟩
    exact ⟨front ++ before, digits, behind, by rw [List.append_assoc], hdigits, hlong⟩

/-- A reference that is too long stands at the ampersand at the front or behind it. -/
theorem overlong_cons {rest : List Char} :
    Overlong ('&' :: rest) ↔ (∃ digits behind, rest = '#' :: (digits ++ behind) ∧
      (∀ d ∈ digits, d.isDigit = true) ∧ Text.maxDigits < digits.length) ∨ Overlong rest := by
  constructor
  · rintro ⟨before, digits, behind, heq, hdigits, hlong⟩
    cases before with
    | nil => exact Or.inl ⟨digits, behind, (List.cons.inj heq).2, hdigits, hlong⟩
    | cons c before => exact Or.inr ⟨before, digits, behind, (List.cons.inj heq).2, hdigits, hlong⟩
  · rintro (⟨digits, behind, rfl, hdigits, hlong⟩ | ⟨before, digits, behind, rfl, hdigits, hlong⟩)
    · exact ⟨[], digits, behind, rfl, hdigits, hlong⟩
    · exact ⟨'&' :: before, digits, behind, rfl, hdigits, hlong⟩

/-- Finding a reference fails exactly in front of a decimal number with too many digits. -/
theorem find?_error_iff (rest : List Char) :
    (∃ e, find? rest = .error e) ↔ ∃ digits behind, rest = '#' :: (digits ++ behind) ∧
      (∀ d ∈ digits, d.isDigit = true) ∧ Text.maxDigits < digits.length := by
  constructor
  · rintro ⟨e, h⟩
    unfold find? at h
    split at h
    · rename_i body
      dsimp only at h
      split at h
      · split at h
        · refine ⟨body.takeWhile Char.isDigit, body.dropWhile Char.isDigit, ?_, ?_, ‹_›⟩
          · rw [List.takeWhile_append_dropWhile]
          · exact fun d hd => List.all_eq_true.mp List.all_takeWhile d hd
        · cases h
      · split at h
        · split at h <;> cases h
        · cases h
    · dsimp only at h
      split at h <;> cases h
  · rintro ⟨digits, behind, rfl, hdigits, hlong⟩
    have hlength : Text.maxDigits < ((digits ++ behind).takeWhile Char.isDigit).length := by
      rw [List.takeWhile_append_of_pos hdigits, List.length_append]
      omega
    have hsome : (!((digits ++ behind).takeWhile Char.isDigit).isEmpty) = true := by
      cases hcase : (digits ++ behind).takeWhile Char.isDigit with
      | nil =>
        rw [hcase] at hlength
        cases hlength
      | cons d ds => rfl
    refine ⟨.tooLong ((digits ++ behind).takeWhile Char.isDigit).length, ?_⟩
    simp only [find?, hsome, hlength, if_true]

/-- A word at the front and the semicolon behind it hold no ampersand when the word holds none. -/
theorem amp_not_mem_take {word cs : List Char} (hword : word <+: cs) (hamp : '&' ∉ word) :
    '&' ∉ cs.take (word.length + (semicolon (cs.drop word.length)).length) := by
  obtain ⟨more, rfl⟩ := hword
  rw [List.drop_left, List.take_length_add_append, List.mem_append]
  rintro (hmem | hmem)
  · exact hamp hmem
  · unfold semicolon at hmem
    cases more with
    | nil =>
      rw [List.take_nil] at hmem
      cases hmem
    | cons c more =>
      by_cases hc : c = ';'
      · subst hc
        revert hmem
        simp
      · revert hmem
        simp [hc]

theorem amp_not_mem_takeWhile {p : Char → Bool} (hp : p '&' = false) (cs : List Char) :
    '&' ∉ cs.takeWhile p := by
  intro hmem
  have htrue := List.all_eq_true.mp List.all_takeWhile _ hmem
  rw [hp] at htrue
  cases htrue

/-- A reference has no further ampersand in it. -/
theorem amp_not_mem_found {rest : List Char} {found : Found} (h : find? rest = .ok (some found)) :
    '&' ∉ rest.take found.length := by
  unfold find? at h
  split at h
  · rename_i body
    dsimp only at h
    split at h
    · split at h
      · cases h
      · cases h
        have hdigits := amp_not_mem_take (List.takeWhile_prefix Char.isDigit)
          (amp_not_mem_takeWhile (by decide) body)
        rw [Nat.add_assoc, Nat.add_comm 1, List.take_succ_cons, List.mem_cons]
        rintro (hmem | hmem)
        · revert hmem
          decide
        · exact hdigits hmem
    · split at h
      · rename_i x more _
        split at h
        · rename_i hx
          cases h
          have hdigits := amp_not_mem_take (List.takeWhile_prefix isHexDigit)
            (amp_not_mem_takeWhile (by decide) more)
          have hxamp : '&' ≠ x := by
            rintro rfl
            simp at hx
          rw [Nat.add_assoc, Nat.add_comm 2, List.take_succ_cons, List.take_succ_cons, List.mem_cons,
            List.mem_cons]
          rintro (hmem | hmem | hmem)
          · revert hmem
            decide
          · exact hxamp hmem
          · exact hdigits hmem
        · cases h
      · cases h
  · dsimp only at h
    split at h
    · cases h
    · cases h
      exact amp_not_mem_take ((List.takeWhile_prefix isNameChar).trans (List.take_prefix maxName rest))
        (amp_not_mem_takeWhile (by decide) _)

/-- **Which texts can be decoded**: those without a decimal reference that is too long. -/
theorem decode_isOk_iff (cs : List Char) : (∃ ds, decode cs = .ok ds) ↔ ¬ Overlong cs := by
  induction cs using decode.induct with
  | case1 =>
    refine ⟨?_, fun _ => ⟨[], decode_nil⟩⟩
    rintro _ ⟨before, digits, behind, heq, _⟩
    cases before <;> cases heq
  | case2 rest ihfound ihplain =>
    rw [overlong_cons, ← find?_error_iff]
    cases hfind : find? rest with
    | error e =>
      refine ⟨?_, fun hnot => absurd (Or.inl ⟨e, rfl⟩) hnot⟩
      rw [decode_error hfind]
      rintro ⟨ds, hds⟩
      cases hds
    | ok result =>
      rw [or_iff_right (fun ⟨e, he⟩ => nomatch he)]
      cases result with
      | none => rw [decode_plain hfind, isOk_front_iff, ihplain]
      | some found =>
        -- the reference itself holds no ampersand, so what counts stands behind it
        have hbehind := @overlong_append _ (rest.drop found.length) (amp_not_mem_found hfind)
        rw [List.take_append_drop] at hbehind
        rw [decode_found hfind, isOk_front_iff, ihfound, hbehind]
  | case3 c rest hc ih =>
    have hbehind := @overlong_append [c] rest (by
      rw [List.mem_singleton]
      exact fun heq => hc heq.symm)
    rw [List.singleton_append] at hbehind
    rw [decode_cons rest hc, isOk_front_iff, ih, hbehind]

end WordLint.Reference
