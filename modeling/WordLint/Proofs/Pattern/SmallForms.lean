import Mathlib
import WordLint.Proofs.Pattern.Words
import WordLint.Proofs.Regex.FollowingPatterns
import WordLint.Proofs.Text.LetterCase

/-!
# Patterns in small letters

A pattern is put in small letters before it is read. `smallLiterals` puts everything but the escapes of a
pattern in small letters, and the digits that an escape asks for stay with it. When every escape is its own
small form (`EscapesKept`), both are the same expression, so the pattern finds what its literals find in
small letters (`small_pattern_finds`). It is refused only when the small letters undo a named group, or turn
a range around.

An escape with a capital letter is another escape in small letters (`small_letters_change`).
-/

namespace WordLint

open Regex (Token tokens digitsAfter Alike isHex)

/-- The small form of an escape is the escape itself. -/
def Regex.Token.Kept : Token → Prop
  | .escape c => Text.lowerChar c = [c]
  | _ => True

instance : (t : Token) → Decidable t.Kept
  | .escape c => inferInstanceAs (Decidable (Text.lowerChar c = [c]))
  | .char _ | .dangling => isTrue trivial

/-- Every escape of a pattern is its own small form. -/
def EscapesKept (cs : List Char) : Prop :=
  ∀ t ∈ tokens cs, t.Kept

instance (cs : List Char) : Decidable (EscapesKept cs) :=
  List.decidableBAll _ _

/-- The small form of a pattern of which `before` has been passed, nearest character first, without its
escapes: some digits that the last one asks for are still to come. -/
def smallAfter (before : List Char) (digits : Nat) : List Char → List Char
  | [] => []
  | ['\\'] => ['\\']
  | '\\' :: c :: rest => '\\' :: c :: smallAfter (c :: '\\' :: before) (digitsAfter c) rest
  | c :: rest =>
    if 0 < digits ∧ isHex c = true then c :: smallAfter (c :: before) (digits - 1) rest
    else Text.lowerAt before c rest ++ smallAfter (c :: before) 0 rest

/-- A pattern with all but its escapes in small letters. -/
def smallLiterals (p : String) : String :=
  String.ofList (smallAfter [] 0 p.toList)

/-! ## What small letters do to characters and escapes -/

variable {before after : List Char} {c d : Char}

/-- Small letters are not signs: what is a sign in small letters was one before. -/
theorem eq_of_sign_of_mem_lowerAt (h : d ∈ Text.lowerAt before c after) (hsign : Regex.Sign c ∨ Regex.Sign d) :
    c = d := by
  rcases Text.mem_lowerAt h with ⟨hascii, rfl⟩ | ⟨habove, hd⟩
  · exact Text.forall_ascii (P := fun c => Regex.Sign c ∨ Regex.Sign c.toLower → c = c.toLower)
      (by decide +kernel) hascii hsign
  · rcases hsign with hsign | hsign
    · exact absurd hsign.1 (Nat.not_lt.mpr habove)
    · rcases hd with hd | rfl | rfl
      · exact absurd hsign.1 (Nat.not_lt.mpr hd)
      · exact absurd hsign (by decide)
      · exact absurd hsign (by decide)

/-- A small letter is not the capital P. -/
theorem ne_capital_of_mem_lowerAt (h : d ∈ Text.lowerAt before c after) : d ≠ 'P' := by
  rcases Text.mem_lowerAt h with ⟨hascii, rfl⟩ | ⟨_, habove | rfl | rfl⟩
  · exact Text.forall_ascii (P := fun c => c.toLower ≠ 'P') (by decide +kernel) hascii
  · rintro rfl
    exact absurd habove (by decide)
  · decide
  · decide

theorem toNat_lt_of_isHex (h : isHex c = true) : c.toNat < 0x80 := by
  refine Text.toNat_lt_of_isAlphanum ?_
  unfold isHex at h
  simp only [Bool.or_eq_true, Bool.and_eq_true, decide_eq_true_eq] at h
  rcases h with (h | ⟨hlow, hhigh⟩) | ⟨hlow, hhigh⟩
  · simp [Char.isAlphanum, h]
  · have hlower : c.isLower = true := by
      simp only [Char.isLower, Bool.and_eq_true, decide_eq_true_eq]
      exact ⟨hlow, le_trans hhigh (by decide)⟩
    simp [Char.isAlphanum, Char.isAlpha, hlower]
  · have hupper : c.isUpper = true := by
      simp only [Char.isUpper, decide_eq_true_eq]
      exact ⟨hlow, le_trans hhigh (by decide)⟩
    simp [Char.isAlphanum, Char.isAlpha, hupper]

/-- Hexadecimal digits come from hexadecimal digits. -/
theorem isHex_of_mem_lowerAt (h : d ∈ Text.lowerAt before c after) (hd : isHex d = true) : isHex c = true := by
  rcases Text.mem_lowerAt h with ⟨hascii, rfl⟩ | ⟨_, habove | rfl | rfl⟩
  · exact Text.forall_ascii (P := fun c => isHex c.toLower = true → isHex c = true) (by decide +kernel)
      hascii hd
  · exact absurd (toNat_lt_of_isHex hd) (Nat.not_lt.mpr habove)
  · exact absurd hd (by decide)
  · exact absurd hd (by decide)

/-- The small form of a hexadecimal digit is one with the same value. -/
theorem lowerAt_isHex (before after : List Char) (h : isHex c = true) :
    Text.lowerAt before c after = [c.toLower] ∧ isHex c.toLower = true ∧
      Regex.hexValue c = Regex.hexValue c.toLower := by
  have hascii := toNat_lt_of_isHex h
  exact ⟨Text.lowerAt_of_lt before after hascii,
    Text.forall_ascii (P := fun c => isHex c = true → isHex c.toLower = true ∧
      Regex.hexValue c = Regex.hexValue c.toLower) (by decide +kernel) hascii h⟩

/-- The backslash is its own small form. -/
theorem lowerAt_backslash (before after : List Char) : Text.lowerAt before '\\' after = ['\\'] :=
  Text.lowerAt_of_lt before after (by decide)

/-- The small form of a kept character is the character itself. -/
theorem lowerAt_kept (before after : List Char) (h : Text.lowerChar c = [c]) :
    Text.lowerAt before c after = [c] := by
  unfold Text.lowerAt
  split
  · rename_i hsigma
    rw [eq_of_beq hsigma] at h
    exact absurd h (by decide +kernel)
  · exact h

/-! ## Tokens -/

theorem tokens_cons (hc : c ≠ '\\') (cs : List Char) : tokens (c :: cs) = .char c :: tokens cs := by
  rw [tokens]
  · rintro rfl
    exact absurd rfl hc
  · rintro _ _ rfl
    exact absurd rfl hc

theorem tokens_append {cs : List Char} (h : '\\' ∉ cs) (ds : List Char) :
    tokens (cs ++ ds) = cs.map .char ++ tokens ds := by
  induction cs with
  | nil => rfl
  | cons c cs ih =>
    rw [List.mem_cons, not_or] at h
    rw [List.cons_append, tokens_cons (Ne.symm h.1), ih h.2]
    rfl

/-- No backslash comes from anything else. -/
theorem backslash_notMem_lowerAt (hc : c ≠ '\\') : '\\' ∉ Text.lowerAt before c after := fun h =>
  hc (eq_of_sign_of_mem_lowerAt h (Or.inr (by decide)))

theorem tokens_lowerAfter_cons (hc : c ≠ '\\') (before rest : List Char) :
    tokens (Text.lowerAfter before (c :: rest)) =
      (Text.lowerAt before c rest).map .char ++ tokens (Text.lowerAfter (c :: before) rest) := by
  rw [Text.lowerAfter_cons, tokens_append (backslash_notMem_lowerAt hc)]

/-- Behind a character that starts no escape, escapes are kept as well. -/
theorem EscapesKept.tail {cs : List Char} (h : EscapesKept (c :: cs)) (hc : c ≠ '\\') : EscapesKept cs := by
  unfold EscapesKept at h
  rw [tokens_cons hc] at h
  exact fun t ht => h t (List.mem_cons_of_mem _ ht)

theorem tokens_escape (c : Char) (cs : List Char) : tokens ('\\' :: c :: cs) = .escape c :: tokens cs := by
  rw [tokens]

/-- A kept escape stands in small letters as it is. -/
theorem EscapesKept.lowerAfter {cs : List Char} (h : EscapesKept ('\\' :: c :: cs)) (before : List Char) :
    EscapesKept cs ∧ tokens (Text.lowerAfter before ('\\' :: c :: cs)) =
      .escape c :: tokens (Text.lowerAfter (c :: '\\' :: before) cs) := by
  unfold EscapesKept at h
  rw [tokens_escape] at h
  obtain ⟨hc, hcs⟩ := List.forall_mem_cons.mp h
  refine ⟨hcs, ?_⟩
  rw [Text.lowerAfter_cons, Text.lowerAfter_cons, lowerAt_backslash, lowerAt_kept _ _ hc]
  exact tokens_escape c _

theorem tokens_lowerAfter_backslash (before : List Char) :
    tokens (Text.lowerAfter before ['\\']) = [.dangling] := by
  rw [Text.lowerAfter_cons, lowerAt_backslash]
  rfl

/-! ## The escapes are kept -/

/-- A character that is no capital P stays as it is. -/
def Unchanged (c d : Char) : Prop :=
  c = d ∧ c ≠ 'P'

theorem alike_chars {ts us : List Token} (h : Alike Unchanged 0 ts us) {cs : List Char} (hcs : cs ≠ [])
    (hcapital : ∀ d ∈ cs, d ≠ 'P') {n : Nat} (hn : n = 0 ∨ ∀ d ∈ cs, isHex d = false) :
    Alike Unchanged n (cs.map .char ++ ts) (cs.map .char ++ us) := by
  induction cs generalizing n with
  | nil => exact absurd rfl hcs
  | cons d cs ih =>
    rw [List.forall_mem_cons] at hcapital
    refine .char (hn.imp_right fun hall => hall d List.mem_cons_self) ⟨rfl, hcapital.1⟩ ?_
    cases cs with
    | nil => exact h
    | cons e cs => exact ih (List.cons_ne_nil _ _) hcapital.2 (Or.inl rfl)

/-- A character that starts no escape is no backslash. -/
theorem ne_backslash {rest : List Char} (hdangling : c = '\\' → rest = [] → False)
    (hescape : ∀ d ds, c = '\\' → rest = d :: ds → False) : c ≠ '\\' := by
  intro hc
  cases rest with
  | nil => exact hdangling hc rfl
  | cons d ds => exact hescape d ds hc rfl

/-- In small letters a pattern is the same as with its escapes kept. -/
theorem alike_small (before : List Char) (n : Nat) {cs : List Char} (h : EscapesKept cs) :
    Alike Unchanged n (tokens (Text.lowerAfter before cs)) (tokens (smallAfter before n cs)) := by
  fun_induction smallAfter before n cs with
  | case1 => exact .nil
  | case2 before n =>
    rw [tokens_lowerAfter_backslash]
    exact .dangling
  | case3 before n c rest ih =>
    obtain ⟨hrest, htokens⟩ := h.lowerAfter before
    rw [htokens, tokens_escape]
    exact .escape c (ih hrest)
  | case4 before n c rest hdangling hescape hdigit ih =>
    have hc := ne_backslash hdangling hescape
    obtain ⟨hsmall, hhex, hvalue⟩ := lowerAt_isHex before rest hdigit.2
    obtain ⟨m, rfl⟩ := Nat.exists_eq_add_of_lt hdigit.1
    rw [tokens_lowerAfter_cons hc, tokens_cons hc, hsmall]
    rw [Nat.zero_add] at ih ⊢
    exact .digit hhex hdigit.2 hvalue.symm (ih (h.tail hc))
  | case5 before n c rest hdangling hescape hother ih =>
    have hc := ne_backslash hdangling hescape
    rw [tokens_lowerAfter_cons hc, tokens_append (backslash_notMem_lowerAt hc)]
    refine alike_chars (ih (h.tail hc)) (Text.lowerAt_ne_nil before c rest)
      (fun d hd => ne_capital_of_mem_lowerAt hd) ?_
    by_cases hn : 0 < n
    · refine Or.inr fun d hd => Bool.eq_false_iff.mpr fun hhex => hother ⟨hn, isHex_of_mem_lowerAt hd hhex⟩
    · exact Or.inl (Nat.eq_zero_of_not_pos hn)

/-! ## Small letters -/

/-- The first character is one of a pattern, and the second one is its small form in some context. -/
def SmallIn (p : List Char) (c d : Char) : Prop :=
  c ∈ p ∧ ∃ before after, Text.lowerAt before c after = [d]

theorem lowerAt_single (before after : List Char) (hc : c ≠ 'İ') :
    ∃ d, Text.lowerAt before c after = [d] := by
  unfold Text.lowerAt Text.lowerChar
  split
  · exact ⟨_, rfl⟩
  · rw [if_neg (by simpa using hc)]
    exact ⟨_, rfl⟩

/-- In small letters a pattern without a dotted capital I has the same tokens up to letters. -/
theorem alike_lower {p : List Char} (before : List Char) (n : Nat) {cs : List Char} (hp : cs ⊆ p)
    (h : EscapesKept cs) (hdotted : 'İ' ∉ cs) :
    Alike (SmallIn p) n (tokens cs) (tokens (Text.lowerAfter before cs)) := by
  -- the cases are those of `smallAfter`: it keeps count of the digits that an escape asks for
  fun_induction smallAfter before n cs with
  | case1 => exact .nil
  | case2 before n =>
    rw [tokens_lowerAfter_backslash]
    exact .dangling
  | case3 before n c rest ih =>
    obtain ⟨hrest, htokens⟩ := h.lowerAfter before
    rw [List.cons_subset, List.cons_subset] at hp
    rw [List.mem_cons, List.mem_cons, not_or, not_or] at hdotted
    rw [htokens, tokens_escape]
    exact .escape c (ih hp.2.2 hrest hdotted.2.2)
  | case4 before n c rest hdangling hescape hdigit ih =>
    have hc := ne_backslash hdangling hescape
    rw [List.cons_subset] at hp
    rw [List.mem_cons, not_or] at hdotted
    obtain ⟨hsmall, hhex, hvalue⟩ := lowerAt_isHex before rest hdigit.2
    obtain ⟨m, rfl⟩ := Nat.exists_eq_add_of_lt hdigit.1
    rw [tokens_lowerAfter_cons hc, tokens_cons hc, hsmall]
    rw [Nat.zero_add] at ih ⊢
    exact .digit hdigit.2 hhex hvalue (ih hp.2 (h.tail hc) hdotted.2)
  | case5 before n c rest hdangling hescape hother ih =>
    have hc := ne_backslash hdangling hescape
    rw [List.cons_subset] at hp
    rw [List.mem_cons, not_or] at hdotted
    obtain ⟨d, hsmall⟩ := lowerAt_single before rest (Ne.symm hdotted.1)
    rw [tokens_lowerAfter_cons hc, tokens_cons hc, hsmall]
    refine .char ?_ ⟨hp.1, before, rest, hsmall⟩ (ih hp.2 (h.tail hc) hdotted.2)
    by_cases hn : 0 < n
    · exact Or.inr (Bool.eq_false_iff.mpr fun hhex => hother ⟨hn, hhex⟩)
    · exact Or.inl (Nat.eq_zero_of_not_pos hn)

/-! ## Patterns -/

theorem unchanged_folds : Regex.Folds Unchanged fun _ => False where
  sign h _ := h.1
  numeral h _ := h.1
  flag h _ := Or.inr h.1
  capital h := absurd rfl h.2
  no_capital h := h.2 h.1
  range := Or.inl fun h => h.1

/-- Why a pattern is refused in small letters when it is read as it stands: the capital P of a named group is
lost, or a range is turned around. -/
def LostInSmallLetters (p : List Char) (problem : Regex.Problem) : Prop :=
  ('P' ∈ p ∧ problem = .unknownExtension "?p") ∨ ('-' ∈ p ∧ ∃ low high, problem = .badRange low high)

/-- The flags have small letters, but for the one that is always refused. -/
theorem flag_small {flag : Regex.Flag} (h : Regex.Flag.ofLetter? c = some flag) :
    c.toNat < 0x80 ∧ (flag = .locale ∨ c.toLower = c) := by
  unfold Regex.Flag.ofLetter? at h
  split at h <;> cases h <;> decide

theorem smallIn_folds (p : List Char) : Regex.Folds (SmallIn p) (LostInSmallLetters p) where
  sign h hsign := by
    obtain ⟨_, before, after, h⟩ := h
    exact eq_of_sign_of_mem_lowerAt (h ▸ List.mem_singleton_self _) hsign
  numeral h hnumeral := by
    obtain ⟨_, before, after, h⟩ := h
    rw [Text.lowerAt_of_numeral before after hnumeral] at h
    exact List.singleton_inj.mp h
  flag h hflag := by
    obtain ⟨_, before, after, h⟩ := h
    obtain ⟨hascii, hsmall⟩ := flag_small hflag
    rw [Text.lowerAt_of_lt before after hascii] at h
    exact hsmall.imp_right fun hsame => hsame.symm.trans (List.singleton_inj.mp h)
  capital h := by
    obtain ⟨hmem, before, after, h⟩ := h
    rw [Text.lowerAt_of_lt before after (by decide)] at h
    exact ⟨(List.singleton_inj.mp h).symm, Or.inl ⟨hmem, rfl⟩⟩
  no_capital h := by
    obtain ⟨_, before, after, h⟩ := h
    exact ne_capital_of_mem_lowerAt (h ▸ List.mem_singleton_self _) rfl
  range := by
    by_cases hhyphen : '-' ∈ p
    · exact Or.inr (Or.inl fun low high => Or.inr ⟨hhyphen, low, high, rfl⟩)
    · exact Or.inr (Or.inr fun h => hhyphen h.1)

theorem alike_symm {n : Nat} {ts us : List Token} (h : Alike Unchanged n ts us) : Alike Unchanged n us ts := by
  induction h with
  | nil => exact .nil
  | char hn h _ ih => exact .char (h.1 ▸ hn) ⟨h.1.symm, h.1 ▸ h.2⟩ ih
  | digit hc hd h _ ih => exact .digit hd hc h.symm ih
  | escape c _ ih => exact .escape c ih
  | dangling => exact .dangling

/-- Patterns with the same characters are read as the same expression. -/
theorem compile_unchanged {p q : String} {e : Regex.Compiled}
    (h : Alike Unchanged 0 (tokens p.toList) (tokens q.toList)) (hp : Regex.compile p = .ok e) :
    Regex.compile q = .ok e := by
  rcases Regex.compile_follows unchanged_folds hp h with ⟨e', hq, hmode, hregex⟩ | ⟨_, _, hnone⟩
  · have hsame : e' = e := by
      cases e
      cases e'
      exact congrArg₂ _ (hregex.eq fun h => h.1).symm hmode
    rw [hq, hsame]
  · exact hnone.elim

/-- In small letters a pattern is read as with its escapes kept. -/
theorem compile_lower {p : String} (h : EscapesKept p.toList) (e : Regex.Compiled) :
    Regex.compile (Text.lower p) = .ok e ↔ Regex.compile (smallLiterals p) = .ok e := by
  have halike : Alike Unchanged 0 (tokens (Text.lower p).toList) (tokens (smallLiterals p).toList) := by
    unfold Text.lower smallLiterals
    rw [String.toList_ofList, String.toList_ofList]
    exact alike_small [] 0 h
  exact ⟨compile_unchanged halike, compile_unchanged (alike_symm halike)⟩

/-- **A pattern in small letters.** Let every escape of a pattern be its own small form. Then the pattern finds
in a text what it finds in the small form of the text once its literals are put in small letters, and it is
refused when there is no such expression. When the pattern is read as it stands and has no dotted capital I,
the expression is there and has the shape of the one that the pattern stands for, unless the small letters
undo a named group or turn a range around. So it is there for every pattern without a capital P and a
hyphen. -/
theorem small_pattern_finds {p : String} {e : Regex.Compiled} (hkept : EscapesKept p.toList)
    (hp : Regex.compile p = .ok e) (text : String) :
    (∀ e', Regex.compile (smallLiterals p) = .ok e' →
      occurrences text [p] = .ok ((e'.spans (searchedText text)).map fun span =>
        ⟨Regex.spanText (searchedText text) span, ⟨Text.lower p, e'⟩⟩)) ∧
    (∀ f, Regex.compile (smallLiterals p) = .error f → ∃ f', occurrences text [p] = .error f') ∧
    ('İ' ∉ p.toList →
      (∃ e', Regex.compile (smallLiterals p) = .ok e' ∧ e'.mode = e.mode ∧
        Regex.SameShape (SmallIn p.toList) e.regex e'.regex) ∨
      ∃ f, occurrences text [p] = .error f ∧ LostInSmallLetters p.toList f.problem) := by
  refine ⟨fun e' h => occurrences_single ((compile_lower hkept e').mpr h) text, fun f hf => ?_,
    fun hdotted => ?_⟩
  · cases hlower : Regex.compile (Text.lower p) with
    | error f' => exact ⟨f', occurrences_refused hlower text⟩
    | ok e' =>
      rw [(compile_lower hkept e').mp hlower] at hf
      cases hf
  · have halike : Alike (SmallIn p.toList) 0 (tokens p.toList) (tokens (Text.lower p).toList) := by
      unfold Text.lower
      rw [String.toList_ofList]
      exact alike_lower [] 0 (List.Subset.refl _) hkept hdotted
    rcases Regex.compile_follows (smallIn_folds p.toList) hp halike with ⟨e', he', hshape⟩ | ⟨f, hf, hlost⟩
    · exact Or.inl ⟨e', (compile_lower hkept e').mp he', hshape⟩
    · exact Or.inr ⟨f, occurrences_refused hf text, hlost⟩

/-- A pattern with capitals, a range and an escape by number. -/
theorem small_pattern_finds_range :
    EscapesKept "Bad[A-F]\\x6B".toList ∧ (∃ e, Regex.compile "Bad[A-F]\\x6B" = .ok e) ∧
      ∃ e', Regex.compile (smallLiterals "Bad[A-F]\\x6B") = .ok e' ∧
        ∀ text, occurrences text ["Bad[A-F]\\x6B"] = .ok ((e'.spans (searchedText text)).map fun span =>
          ⟨Regex.spanText (searchedText text) span, ⟨Text.lower "Bad[A-F]\\x6B", e'⟩⟩) := by
  have hkept : EscapesKept "Bad[A-F]\\x6B".toList := by decide +kernel
  have hread : Regex.compile "Bad[A-F]\\x6B" =
      .ok ⟨Regex.catAll [.char 66, .char 97, .char 100, .set false [.range 65 70], .char 0x6B], []⟩ := by
    cbv
  have hsmall : Regex.compile (smallLiterals "Bad[A-F]\\x6B") =
      .ok ⟨Regex.catAll [.char 98, .char 97, .char 100, .set false [.range 97 102], .char 0x6B], []⟩ := by
    cbv
  exact ⟨hkept, ⟨_, hread⟩, _, hsmall, fun text => (small_pattern_finds hkept hread text).1 _ hsmall⟩

/-- What small letters change. The class of what is no digit becomes the class of digits, though the pattern
has no literal at all. A named group, a range that is turned around and a dotted capital I in a lookbehind are
refused, though they are read as they stand. -/
theorem small_letters_change :
    (∃ e, smallLiterals "\\D" = "\\D" ∧ Regex.compile "\\D" = .ok e ∧
      (e.spans (searchedText "a1")).map (Regex.spanText (searchedText "a1")) = ["a"] ∧
      (occurrences "a1" ["\\D"]).map (·.map (·.text)) = .ok ["1"]) ∧
    ∀ p ∈ ["(?P<n>x)", "[Z-a]", "(?<=İ|a)b"],
      (Regex.compile p).toBool = true ∧ (occurrences "x" [p]).toBool = false := by
  have hclass : Regex.compile "\\D" = .ok ⟨.set false [.named .digit true], []⟩ := by cbv
  refine ⟨⟨_, ?_, hclass, ?_, ?_⟩, ?_⟩
  · cbv
  · cbv
  · cbv
  · decide +kernel

end WordLint
