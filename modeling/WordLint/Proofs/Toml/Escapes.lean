import Mathlib
import WordLint.Proofs.Text.Characters
import WordLint.Toml.Written

/-!
# Texts between quotation marks

A character between quotation marks is written in one of three ways (`Spelling`): as itself, with a
short escape, or by its code point. A text ends at the mark behind it, whatever it holds
(`lineText?_written`).

**The law** (`resolved?_written`): resolving the escapes of a written text gives the text back, unless the
text holds a backslash and a `u` behind a character that is written by its code point (`CodesKept`). Escapes
by code point are resolved in a pass of their own, and behind the first of them that pass does not tell
an escaped backslash from one that starts an escape.
-/

namespace WordLint.Toml

/-- A text as it is written between quotation marks. -/
def written (p : List Char) : List Char :=
  p.flatMap basicChar

/-- A character that is written by its code point. -/
def isCoded (c : Char) : Bool :=
  2 < (basicChar c).length

/-! ## Spellings -/

/-- The ways in which a character is written. -/
inductive Spelling (c : Char) : List Char → Prop where
  | plain (hescape : c ≠ '\\') (hmark : c ≠ '"') (hbreak : c ≠ '\n') (hcoded : isCoded c = false) :
    Spelling c [c]
  | short (e : Char) (hresolved : escapeChar? e = some c) (hu : e ≠ 'u') (hU : e ≠ 'U')
    (hcoded : isCoded c = false) : Spelling c ['\\', e]
  | coded (hcontrol : c.toNat < 128) (hcoded : isCoded c = true) : Spelling c ('\\' :: 'u' :: Text.hex 4 c.toNat)

theorem basicChar_spelling (c : Char) : Spelling c (basicChar c) := by
  by_cases hshort : c ∈ ['"', '\\', '\x08', '\t', '\n', '\x0C', '\r']
  · simp only [List.mem_cons, List.not_mem_nil, or_false] at hshort
    rcases hshort with rfl | rfl | rfl | rfl | rfl | rfl | rfl
    · exact .short '"' rfl (by decide) (by decide) rfl
    · exact .short '\\' rfl (by decide) (by decide) rfl
    · exact .short 'b' rfl (by decide) (by decide) rfl
    · exact .short 't' rfl (by decide) (by decide) rfl
    · exact .short 'n' rfl (by decide) (by decide) rfl
    · exact .short 'f' rfl (by decide) (by decide) rfl
    · exact .short 'r' rfl (by decide) (by decide) rfl
  · simp only [List.mem_cons, List.not_mem_nil, or_false, not_or] at hshort
    obtain ⟨hmark, hescape, hb, ht, hn, hf, hr⟩ := hshort
    by_cases hcontrol : c.toNat < 0x20 ∨ c.toNat = 0x7F
    · have hbasic : basicChar c = '\\' :: 'u' :: Text.hex 4 c.toNat := by
        simp [basicChar, hmark, hescape, hb, ht, hn, hf, hr, hcontrol]
      rw [hbasic]
      refine .coded (by omega) ?_
      rw [isCoded, hbasic, decide_eq_true_iff, Text.hex]
      simp only [List.length_cons, List.length_append, List.length_replicate]
      omega
    · have hbasic : basicChar c = [c] := by
        simp [basicChar, hmark, hescape, hb, ht, hn, hf, hr, hcontrol]
      rw [hbasic]
      exact .plain hescape hmark hn (by rw [isCoded, hbasic]; rfl)

theorem toNat_lt_of_isCoded {c : Char} (hc : isCoded c = true) : c.toNat < 128 := by
  have hspelling := basicChar_spelling c
  generalize basicChar c = w at hspelling
  cases hspelling with
  | plain _ _ _ hcoded => exact absurd hc (by rw [hcoded]; decide)
  | short _ _ _ _ hcoded => exact absurd hc (by rw [hcoded]; decide)
  | coded hcontrol _ => exact hcontrol

theorem basicChar_of_isCoded {c : Char} (hc : isCoded c = true) :
    basicChar c = '\\' :: 'u' :: Text.hex 4 c.toNat := by
  have hspelling := basicChar_spelling c
  generalize basicChar c = w at hspelling ⊢
  cases hspelling with
  | plain _ _ _ hcoded => exact absurd hc (by rw [hcoded]; decide)
  | short _ _ _ _ hcoded => exact absurd hc (by rw [hcoded]; decide)
  | coded _ _ => rfl

/-- Four hexadecimal digits stand for a character that is written by its code point. -/
structure CodeFacts (c : Char) : Prop where
  length : (Text.hex 4 c.toNat).length = 4
  digits : (Text.hex 4 c.toNat).takeWhile (fun d => (hexNumber? [d]).isSome) = Text.hex 4 c.toNat
  number : hexNumber? (Text.hex 4 c.toNat) = some c.toNat
  plain : (Text.hex 4 c.toNat).all (fun d => d != '\\' && d != '"' && d != '\n') = true
  ne_escape : c ≠ '\\'

theorem codeFacts {c : Char} (hc : isCoded c = true) : CodeFacts c := by
  have this := Text.forall_ascii (P := fun c => isCoded c = true →
    ((Text.hex 4 c.toNat).length == 4 &&
      (Text.hex 4 c.toNat).takeWhile (fun d => (hexNumber? [d]).isSome) == Text.hex 4 c.toNat &&
      hexNumber? (Text.hex 4 c.toNat) == some c.toNat &&
      (Text.hex 4 c.toNat).all (fun d => d != '\\' && d != '"' && d != '\n') &&
      c != '\\') = true) (by decide +kernel) (toNat_lt_of_isCoded hc) hc
  simp only [Bool.and_eq_true, beq_iff_eq, bne_iff_ne] at this
  obtain ⟨⟨⟨⟨h1, h2⟩, h3⟩, h4⟩, h5⟩ := this
  exact ⟨h1, h2, h3, h4, h5⟩

/-! ## Where a text ends -/

/-- Characters without marks, escapes and line breaks are passed over. -/
theorem lineText?_plain {cs : List Char}
    (h : cs.all (fun d => d != '\\' && d != '"' && d != '\n') = true) (t : List Char) :
    lineText? '"' false (cs ++ t) = (lineText? '"' false t).map fun (more, rest) => (cs ++ more, rest) := by
  induction cs with
  | nil => simp
  | cons d cs ih =>
    rw [List.all_cons, Bool.and_eq_true] at h
    obtain ⟨hd, hcs⟩ := h
    simp only [Bool.and_eq_true, bne_iff_ne] at hd
    obtain ⟨⟨hescape, hmark⟩, hbreak⟩ := hd
    rw [List.cons_append, lineText?]
    simp only [hescape, hmark, hbreak, decide_false, Bool.and_false, Bool.false_eq_true, if_false, ih hcs,
      Option.map_map]
    rfl

/-- A backslash and the character behind it are passed over, whatever that is. -/
theorem lineText?_escape (e : Char) (t : List Char) :
    lineText? '"' false ('\\' :: e :: t) =
      (lineText? '"' false t).map fun (more, rest) => ('\\' :: e :: more, rest) := by
  have hfirst : lineText? '"' false ('\\' :: e :: t) =
      (lineText? '"' true (e :: t)).map fun (more, rest) => ('\\' :: more, rest) := rfl
  have hsecond : lineText? '"' true (e :: t) =
      (lineText? '"' false t).map fun (more, rest) => (e :: more, rest) := rfl
  rw [hfirst, hsecond, Option.map_map]
  rfl

/-- A written character is passed over. -/
theorem lineText?_basicChar (c : Char) (t : List Char) :
    lineText? '"' false (basicChar c ++ t) =
      (lineText? '"' false t).map fun (more, rest) => (basicChar c ++ more, rest) := by
  have hspelling := basicChar_spelling c
  generalize basicChar c = w at hspelling
  cases hspelling with
  | plain hescape hmark hbreak _ =>
    refine lineText?_plain ?_ t
    simp [hescape, hmark, hbreak]
  | short e _ _ _ _ => exact lineText?_escape e t
  | coded _ hcoded =>
    rw [List.cons_append, List.cons_append, lineText?_escape, lineText?_plain (codeFacts hcoded).plain,
      Option.map_map]
    rfl

/-- **A written text ends at the mark behind it.** -/
theorem lineText?_written (p t : List Char) :
    lineText? '"' false (written p ++ '"' :: t) = some (written p, some t) := by
  induction p with
  | nil => rfl
  | cons c p ih =>
    rw [written, List.flatMap_cons, List.append_assoc, lineText?_basicChar]
    show Option.map _ (lineText? '"' false (written p ++ '"' :: t)) = _
    rw [ih]
    rfl

/-! ## Escapes that are known -/

theorem escapesKnown_plain {cs : List Char}
    (h : cs.all (fun d => d != '\\' && d != '"' && d != '\n') = true) (t : List Char) :
    escapesKnown (cs ++ t) = escapesKnown t := by
  induction cs with
  | nil => rfl
  | cons d cs ih =>
    rw [List.all_cons, Bool.and_eq_true] at h
    obtain ⟨hd, hcs⟩ := h
    simp only [Bool.and_eq_true, bne_iff_ne] at hd
    rw [List.cons_append, escapesKnown]
    · exact ih hcs
    · exact fun _ _ h => absurd h hd.1.1

theorem escapesKnown_written (p : List Char) : escapesKnown (written p) = true := by
  induction p with
  | nil => rfl
  | cons c p ih =>
    rw [written, List.flatMap_cons]
    have hspelling := basicChar_spelling c
    generalize basicChar c = w at hspelling
    cases hspelling with
    | plain hescape hmark hbreak _ =>
      rw [escapesKnown_plain (by simp [hescape, hmark, hbreak])]
      exact ih
    | short e hresolved _ _ _ =>
      show ((e == 'u' || e == 'U' || (escapeChar? e).isSome) && escapesKnown (written p)) = true
      rw [hresolved, ih]
      simp
    | coded _ hcoded =>
      show escapesKnown (Text.hex 4 c.toNat ++ written p) = true
      rw [escapesKnown_plain (codeFacts hcoded).plain]
      exact ih

/-! ## The pass over escapes by code point -/

section Pass

variable {letter : Char} {digits : Nat} {fresh odd : Bool}

theorem resolveCodes?_nil : resolveCodes? letter digits fresh odd [] = some [] := by
  rw [resolveCodes?]

theorem resolveCodes?_cons {c : Char} (hc : c ≠ '\\') (t : List Char) :
    resolveCodes? letter digits fresh odd (c :: t) =
      (resolveCodes? letter digits fresh false t).map (c :: ·) := by
  rw [resolveCodes?]
  exact fun _ _ h => absurd h hc

/-- A backslash with another letter behind it stays. -/
theorem resolveCodes?_other {e : Char} (he : e ≠ letter) (t : List Char) :
    resolveCodes? letter digits fresh odd ('\\' :: e :: t) =
      (resolveCodes? letter digits fresh (!odd) (e :: t)).map ('\\' :: ·) := by
  rw [resolveCodes?, if_neg he]

/-- As long as no escape has been resolved, an escaped backslash stays whatever is behind it. -/
theorem resolveCodes?_escaped (hletter : letter ≠ '\\') (t : List Char) :
    resolveCodes? letter digits true true ('\\' :: t) =
      (resolveCodes? letter digits true false t).map ('\\' :: ·) := by
  cases t with
  | nil => simp [resolveCodes?]
  | cons e t =>
    by_cases he : e = letter
    · rw [resolveCodes?, if_pos he, he, resolveCodes?_cons hletter, Option.map_map]
      rfl
    · rw [resolveCodes?_other he]
      rfl

/-- A short escape stays, as long as no escape has been resolved. -/
theorem resolveCodes?_short (hletter : letter ≠ '\\') {e : Char} (he : e ≠ letter) (t : List Char) :
    resolveCodes? letter digits true false ('\\' :: e :: t) =
      (resolveCodes? letter digits true false t).map (['\\', e] ++ ·) := by
  rw [resolveCodes?_other he, Bool.not_false]
  by_cases hescape : e = '\\'
  · rw [hescape, resolveCodes?_escaped hletter, Option.map_map]
    rfl
  · rw [resolveCodes?_cons hescape, Option.map_map]
    rfl

/-- Behind an escape that has been resolved, a short escape stays where it is not an escaped backslash
in front of the letter. -/
theorem resolveCodes?_late {e : Char} (he : e ≠ letter) {t : List Char}
    (ht : e = '\\' → t.head? ≠ some letter) :
    resolveCodes? letter digits false false ('\\' :: e :: t) =
      (resolveCodes? letter digits false false t).map (['\\', e] ++ ·) := by
  rw [resolveCodes?_other he, Bool.not_false]
  by_cases hescape : e = '\\'
  · subst hescape
    have ht := ht rfl
    cases t with
    | nil => simp [resolveCodes?]
    | cons d t =>
      have hd : d ≠ letter := fun h => ht (by rw [h]; rfl)
      rw [resolveCodes?_other hd, Option.map_map]
      rfl
  · rw [resolveCodes?_cons hescape, Option.map_map]
    rfl

end Pass

/-- How a character is written once the escapes by code point are resolved. -/
def shortChar (c : Char) : List Char :=
  if isCoded c then [c] else basicChar c

/-- The escape by code point of a character stands for it. -/
theorem codeChar?_coded {c : Char} (hc : isCoded c = true) (t : List Char) :
    codeChar? 'u' 4 (Text.hex 4 c.toNat ++ t) = some (c, 4) := by
  have hfacts := codeFacts hc
  have hfront : (Text.hex 4 c.toNat ++ t).take 4 = Text.hex 4 c.toNat :=
    List.take_left' hfacts.length
  have hvalid : c.toNat.isValidChar := c.valid
  unfold codeChar?
  simp only [hfront, hfacts.digits, hfacts.length, hfacts.number]
  simp [hvalid, Char.ofNat_toNat]

/-- An escape by code point is resolved. -/
theorem resolveCodes?_coded {c : Char} (hc : isCoded c = true) (fresh : Bool) (t : List Char) :
    resolveCodes? 'u' 4 fresh false ('\\' :: 'u' :: (Text.hex 4 c.toNat ++ t)) =
      (resolveCodes? 'u' 4 false false t).map (c :: ·) := by
  rw [resolveCodes?, if_pos rfl, Bool.and_false, if_neg Bool.false_ne_true, codeChar?_coded hc]
  show (do return c :: (← resolveCodes? 'u' 4 false false ((Text.hex 4 c.toNat ++ t).drop 4))) = _
  rw [List.drop_left' (codeFacts hc).length]
  cases resolveCodes? 'u' 4 false false t <;> rfl

/-- No escape by code point: the pass leaves the text as it is and goes on. -/
theorem resolveCodes?_fresh {x : List Char} (hx : ∀ c ∈ x, isCoded c = false) (t : List Char) :
    resolveCodes? 'u' 4 true false (written x ++ t) =
      (resolveCodes? 'u' 4 true false t).map (written x ++ ·) := by
  induction x with
  | nil => simp [written]
  | cons c x ih =>
    have hcoded := hx c List.mem_cons_self
    have hx := ih fun d hd => hx d (List.mem_cons_of_mem _ hd)
    rw [written, List.flatMap_cons]
    have hspelling := basicChar_spelling c
    generalize basicChar c = w at hspelling
    cases hspelling with
    | plain hescape _ _ _ =>
      show resolveCodes? 'u' 4 true false (c :: (written x ++ t)) = _
      rw [resolveCodes?_cons hescape, hx, Option.map_map]
      rfl
    | short e _ hu _ _ =>
      show resolveCodes? 'u' 4 true false ('\\' :: e :: (written x ++ t)) = _
      rw [resolveCodes?_short (by decide) hu, hx, Option.map_map]
      rfl
    | coded _ hcoded' => exact absurd hcoded' (by rw [hcoded]; decide)

/-- A written text in which the escapes by code point are resolved. -/
def halfResolved (p : List Char) : List Char :=
  p.flatMap shortChar

theorem halfResolved_of_not_coded {x : List Char} (hx : ∀ c ∈ x, isCoded c = false) :
    halfResolved x = written x := by
  refine List.flatMap_congr fun c hc => ?_
  rw [shortChar, hx c hc]
  rfl

/-- A written text starts with a backslash or with its own first character. -/
theorem head?_written_ne {y : List Char} {letter : Char} (hletter : letter ≠ '\\')
    (hy : y.head? ≠ some letter) : (written y).head? ≠ some letter := by
  cases y with
  | nil => exact fun h => nomatch h
  | cons d y =>
    rw [written, List.flatMap_cons]
    have hspelling := basicChar_spelling d
    generalize basicChar d = w at hspelling
    cases hspelling with
    | plain _ _ _ _ => exact hy
    | short e _ _ _ _ => exact fun h => hletter (Option.some.inj h).symm
    | coded _ _ => exact fun h => hletter (Option.some.inj h).symm

/-- Behind an escape by code point the pass resolves those that follow, when no backslash stands in front
of a `u`. -/
theorem resolveCodes?_written_late {y : List Char} (hy : ¬ ['\\', 'u'] <:+: y) :
    resolveCodes? 'u' 4 false false (written y) = some (halfResolved y) := by
  induction y with
  | nil => exact resolveCodes?_nil
  | cons c y ih =>
    have hrest := ih fun h => hy (h.trans (List.suffix_cons c y).isInfix)
    have hcons : halfResolved (c :: y) = shortChar c ++ halfResolved y := List.flatMap_cons
    rw [hcons, written, List.flatMap_cons, shortChar]
    have hspelling := basicChar_spelling c
    generalize basicChar c = w at hspelling
    cases hspelling with
    | plain hescape _ _ hcoded =>
      show resolveCodes? 'u' 4 false false (c :: written y) = _
      rw [resolveCodes?_cons hescape, hrest, hcoded]
      rfl
    | short e hresolved hu _ hcoded =>
      show resolveCodes? 'u' 4 false false ('\\' :: e :: written y) = _
      rw [resolveCodes?_late hu, hrest, hcoded]
      · rfl
      · rintro rfl
        refine head?_written_ne (by decide) fun h => hy ?_
        obtain ⟨z, rfl⟩ : ∃ z, y = 'u' :: z := by
          cases y with
          | nil => cases h
          | cons d z => exact ⟨z, by rw [Option.some.inj h]⟩
        cases hresolved
        exact ⟨[], z, rfl⟩
    | coded _ hcoded =>
      show resolveCodes? 'u' 4 false false ('\\' :: 'u' :: (Text.hex 4 c.toNat ++ written y)) = _
      rw [resolveCodes?_coded hcoded, hrest, hcoded]
      rfl

/-- Behind the first character that is written by its code point the text holds no backslash in front of
a `u`. -/
def CodesKept (p : List Char) : Prop :=
  ¬ ['\\', 'u'] <:+: p.dropWhile (!isCoded ·)

instance (p : List Char) : Decidable (CodesKept p) :=
  inferInstanceAs (Decidable (¬ ['\\', 'u'] <:+: p.dropWhile (!isCoded ·)))

/-- The first pass resolves the escapes by code point, and nothing else. -/
theorem resolveCodes?_written {p : List Char} (hp : CodesKept p) :
    resolveCodes? 'u' 4 true false (written p) = some (halfResolved p) := by
  unfold CodesKept at hp
  have hbefore : ∀ c ∈ p.takeWhile (!isCoded ·), isCoded c = false := by
    intro c hc
    simpa using List.mem_takeWhile_imp hc
  have hp' : p.takeWhile (!isCoded ·) ++ p.dropWhile (!isCoded ·) = p := List.takeWhile_append_dropWhile
  have hhead := List.head?_dropWhile_not (!isCoded ·) p
  generalize p.takeWhile (!isCoded ·) = x at hbefore hp'
  generalize p.dropWhile (!isCoded ·) = y at hp hp' hhead
  rw [← hp']
  have hwritten : written (x ++ y) = written x ++ written y := List.flatMap_append
  have hhalf : halfResolved (x ++ y) = written x ++ halfResolved y := by
    rw [← halfResolved_of_not_coded hbefore]
    exact List.flatMap_append
  have hbehind : resolveCodes? 'u' 4 true false (written y) = some (halfResolved y) := by
    cases y with
    | nil => exact resolveCodes?_nil
    | cons c y =>
      have hcoded : isCoded c = true := by simpa using hhead
      have hlate := resolveCodes?_written_late fun h => hp (h.trans (List.suffix_cons c y).isInfix)
      have hchar := basicChar_of_isCoded hcoded
      have hhalf : halfResolved (c :: y) = c :: halfResolved y := by
        rw [halfResolved, List.flatMap_cons, shortChar, if_pos hcoded]
        rfl
      rw [hhalf, written, List.flatMap_cons, hchar]
      show resolveCodes? 'u' 4 true false ('\\' :: 'u' :: (Text.hex 4 c.toNat ++ written y)) = _
      rw [resolveCodes?_coded hcoded, hlate]
      rfl
  rw [hwritten, hhalf, resolveCodes?_fresh hbefore, hbehind]
  rfl

/-- The second pass finds nothing to resolve. -/
theorem resolveCodes?_halfResolved (p : List Char) :
    resolveCodes? 'U' 8 true false (halfResolved p) = some (halfResolved p) := by
  induction p with
  | nil => exact resolveCodes?_nil
  | cons c p ih =>
    have hcons : halfResolved (c :: p) = shortChar c ++ halfResolved p := List.flatMap_cons
    rw [hcons, shortChar]
    have hspelling := basicChar_spelling c
    generalize basicChar c = w at hspelling
    cases hspelling with
    | plain hescape _ _ hcoded =>
      rw [hcoded]
      show resolveCodes? 'U' 8 true false (c :: halfResolved p) = _
      rw [resolveCodes?_cons hescape, ih]
      rfl
    | short e _ _ hU hcoded =>
      rw [hcoded]
      show resolveCodes? 'U' 8 true false ('\\' :: e :: halfResolved p) = _
      rw [resolveCodes?_short (by decide) hU, ih]
      rfl
    | coded _ hcoded =>
      rw [if_pos hcoded]
      show resolveCodes? 'U' 8 true false (c :: halfResolved p) = _
      rw [resolveCodes?_cons (codeFacts hcoded).ne_escape, ih]
      rfl

/-- The other escapes stand for their characters. -/
theorem unescaped?_halfResolved (p : List Char) : unescaped? (halfResolved p) = some p := by
  have hplain : ∀ {c : Char} (_ : c ≠ '\\') (t : List Char),
      unescaped? (c :: t) = (unescaped? t).map (c :: ·) := by
    intro c hc t
    rw [unescaped?]
    exact fun _ _ h => absurd h hc
  induction p with
  | nil => rfl
  | cons c p ih =>
    have hcons : halfResolved (c :: p) = shortChar c ++ halfResolved p := List.flatMap_cons
    rw [hcons, shortChar]
    have hspelling := basicChar_spelling c
    generalize basicChar c = w at hspelling
    cases hspelling with
    | plain hescape _ _ hcoded =>
      rw [hcoded]
      show unescaped? (c :: halfResolved p) = _
      rw [hplain hescape, ih]
      rfl
    | short e hresolved hu hU hcoded =>
      rw [hcoded]
      show unescaped? ('\\' :: e :: halfResolved p) = _
      rw [unescaped?, if_neg (by simp [hu, hU]), hresolved, ih]
      rfl
    | coded _ hcoded =>
      rw [if_pos hcoded]
      show unescaped? (c :: halfResolved p) = _
      rw [hplain (codeFacts hcoded).ne_escape, ih]
      rfl

/-- **Resolving undoes writing.** -/
theorem resolved?_written {p : List Char} (hp : CodesKept p) : resolved? '"' (written p) = some p := by
  unfold resolved?
  rw [if_neg (by simp), escapesKnown_written, resolveCodes?_written hp]
  show (do unescaped? (← resolveCodes? 'U' 8 true false (halfResolved p))) = _
  rw [resolveCodes?_halfResolved]
  exact unescaped?_halfResolved p

end WordLint.Toml
