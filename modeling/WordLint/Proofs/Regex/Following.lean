import Mathlib
import WordLint.Proofs.Regex.Plain
import WordLint.Proofs.Regex.Shape
import WordLint.Proofs.Text.LetterCase

/-!
# Readers that follow each other

A pattern and a second one that is `Alike`: token by token they have the same escapes and related
characters, and the digits of their numeric escapes have the same values. `Follows` says of a step of
reading the second pattern that it goes along with the same step of reading the first one: when the first
one succeeds, the second one succeeds with a related result, or is refused for a reason that may occur.

What may be related is said by `Folds`: signs, the digits of numerals and the letters of flags only to
themselves. The small steps of reading follow each other here, up to escapes, sets and repetitions.
-/

namespace WordLint.Regex

/-- A sign of ASCII: no letter, so every sign of a pattern and every digit. -/
def Sign (c : Char) : Prop :=
  c.toNat < 0x80 ∧ c.isAlpha = false

instance (c : Char) : Decidable (Sign c) :=
  inferInstanceAs (Decidable (_ ∧ _))

/-- A character that a numeral may hold besides signs. -/
def InNumeral (c : Char) : Prop :=
  Text.isDecimal c ∨ Text.isNumeralBlank c

/-- A relation between the characters of two patterns that changes nothing but letters, and the reasons
for which the second pattern may be refused when the first one is not. Without such a reason there must be
no capital P that could belong to a named group, and no range of letters that could be turned around. -/
structure Folds (L : Char → Char → Prop) (refusable : Problem → Prop) : Prop where
  sign : ∀ {c d}, L c d → Sign c ∨ Sign d → c = d
  numeral : ∀ {c d}, L c d → InNumeral c → c = d
  flag : ∀ {c d f}, L c d → Flag.ofLetter? c = some f → f = .locale ∨ c = d
  capital : ∀ {d}, L 'P' d → d = 'p' ∧ refusable (.unknownExtension "?p")
  no_capital : ∀ {c}, ¬ L c 'P'
  range : (∀ {c d}, L c d → c = d) ∨ (∀ low high, refusable (.badRange low high)) ∨ ¬ L '-' '-'

variable {L : Char → Char → Prop} {refusable : Problem → Prop} {α β γ δ : Type}

/-! ## Tokens -/

/-- How many hexadecimal digits an escape asks for. -/
def digitsAfter (c : Char) : Nat :=
  if c = 'x' then 2 else if c = 'u' then 4 else if c = 'U' then 8 else 0

/-- Two patterns are alike, behind an escape that still asks for some hexadecimal digits. -/
inductive Alike (L : Char → Char → Prop) : Nat → List Token → List Token → Prop where
  | nil {n : Nat} : Alike L n [] []
  | char {n : Nat} {c d : Char} {ts us : List Token} (hn : n = 0 ∨ isHex c = false) (h : L c d)
    (hrest : Alike L 0 ts us) : Alike L n (.char c :: ts) (.char d :: us)
  | digit {n : Nat} {c d : Char} {ts us : List Token} (hc : isHex c = true) (hd : isHex d = true)
    (h : hexValue c = hexValue d) (hrest : Alike L n ts us) : Alike L (n + 1) (.char c :: ts) (.char d :: us)
  | escape {n : Nat} (c : Char) {ts us : List Token} (hrest : Alike L (digitsAfter c) ts us) :
    Alike L n (.escape c :: ts) (.escape c :: us)
  | dangling {n : Nat} : Alike L n [.dangling] [.dangling]

/-- Two tokens of one kind: both are the same sign, or both are none. -/
structure SameKind (t u : Token) : Prop where
  width : t.width = u.width
  dangling : t = .dangling ↔ u = .dangling
  sign : ∀ c, Sign c → isHex c = false → (t = .char c ↔ u = .char c)

theorem Alike.kinds (hL : Folds L refusable) {n : Nat} {ts us : List Token} (h : Alike L n ts us) :
    List.Forall₂ SameKind ts us := by
  induction h with
  | nil => exact .nil
  | @char n c d ts us _ h _ ih =>
    refine .cons ⟨rfl, by simp, fun k hk _ => ?_⟩ ih
    rw [Token.char.injEq, Token.char.injEq]
    constructor
    · rintro rfl
      exact (hL.sign h (Or.inl hk)).symm
    · rintro rfl
      exact hL.sign h (Or.inr hk)
  | @digit n c d ts us hc hd _ _ ih =>
    refine .cons ⟨rfl, by simp, fun k _ hk => ?_⟩ ih
    rw [Token.char.injEq, Token.char.injEq]
    constructor
    · rintro rfl
      rw [hk] at hc
      cases hc
    · rintro rfl
      rw [hk] at hd
      cases hd
  | escape c _ ih => exact .cons ⟨rfl, by simp, by simp⟩ ih
  | dangling => exact .cons ⟨rfl, by simp, by simp⟩ .nil

theorem widthOf_eq {ts us : List Token} (h : List.Forall₂ SameKind ts us) : widthOf ts = widthOf us := by
  induction h with
  | nil => rfl
  | cons hk _ ih =>
    show _ + widthOf _ = _ + widthOf _
    rw [hk.width, ih]

/-! ## Readers -/

/-- Two readers in front of patterns that are alike, with the same knowledge of what they have read, and no
named groups. -/
structure Like (L : Char → Char → Prop) (n : Nat) (r r' : Reader) : Prop where
  rest : Alike L n r.rest r'.rest
  position : r.position = r'.position
  flags : r.flags = r'.flags
  groups : r.groups = r'.groups
  names : r.names = [] ∧ r'.names = []
  lookbehindGroups : r.lookbehindGroups = r'.lookbehindGroups
  asked : r.asked = r'.asked

/-- A step that succeeds is made of two that do. -/
theorem bind_ok {x : Read α} {f : α → Read β} {r s : Reader} {b : β} (h : (x >>= f).run r = .ok (b, s)) :
    ∃ a r₁, x.run r = .ok (a, r₁) ∧ (f a).run r₁ = .ok (b, s) := by
  rw [StateT.run_bind] at h
  cases hx : x.run r with
  | error e =>
    rw [hx] at h
    cases h
  | ok p =>
    obtain ⟨a, r₁⟩ := p
    rw [hx] at h
    exact ⟨a, r₁, rfl, h⟩

/-- When `x` succeeds, `y` succeeds with a related result, or is refused for a reason that may occur. -/
def Follows (refusable : Problem → Prop) (Q : α → Reader → β → Reader → Prop) (x : Read α) (r : Reader)
    (y : Read β) (r' : Reader) : Prop :=
  ∀ a s, x.run r = .ok (a, s) →
    (∃ b s', y.run r' = .ok (b, s') ∧ Q a s b s') ∨ ∃ f, y.run r' = .error f ∧ refusable f.problem

namespace Follows

variable {Q : α → Reader → β → Reader → Prop} {Q' : γ → Reader → δ → Reader → Prop} {x : Read α}
  {y : Read β} {f : α → Read γ} {g : β → Read δ} {r r' : Reader}

theorem pure {a : α} {b : β} (h : Q a r b r') : Follows refusable Q (pure a) r (pure b) r' := by
  intro a' s hrun
  cases hrun
  exact Or.inl ⟨b, r', rfl, h⟩

/-- Nothing has to follow a refusal. -/
theorem refused {e : Fault} (h : x.run r = .error e) : Follows refusable Q x r y r' := by
  intro a s hrun
  rw [h] at hrun
  cases hrun

/-- A refusal that may occur follows everything. -/
theorem refuses {e : Fault} (h : y.run r' = .error e) (he : refusable e.problem) :
    Follows refusable Q x r y r' :=
  fun _ _ _ => Or.inr ⟨e, h, he⟩

theorem mono {R : α → Reader → β → Reader → Prop} (h : Follows refusable Q x r y r')
    (hQ : ∀ {a s b s'}, Q a s b s' → R a s b s') : Follows refusable R x r y r' := by
  intro a s hrun
  rcases h a s hrun with ⟨b, s', hy, hq⟩ | hrefused
  · exact Or.inl ⟨b, s', hy, hQ hq⟩
  · exact Or.inr hrefused

/-- The first pattern may be asked what it has read. -/
theorem ran (h : Follows refusable Q x r y r') :
    Follows refusable (fun a s b s' => x.run r = .ok (a, s) ∧ Q a s b s') x r y r' := by
  intro a s hrun
  rcases h a s hrun with ⟨b, s', hrun', hq⟩ | hrefused
  · exact Or.inl ⟨b, s', hrun', hrun, hq⟩
  · exact Or.inr hrefused

/-- One step behind another. -/
theorem bind (h : Follows refusable Q x r y r')
    (hf : ∀ {a s b s'}, Q a s b s' → Follows refusable Q' (f a) s (g b) s') :
    Follows refusable Q' (x >>= f) r (y >>= g) r' := by
  intro c t hrun
  obtain ⟨a, s, hx, hfa⟩ := bind_ok hrun
  rcases h a s hx with ⟨b, s', hy, hq⟩ | ⟨e, hy, he⟩
  · rcases hf hq c t hfa with ⟨d, t', hg, hq'⟩ | ⟨e, hg, he⟩
    · exact Or.inl ⟨d, t', (run_bind_ok hy).trans hg, hq'⟩
    · exact Or.inr ⟨e, (run_bind_ok hy).trans hg, he⟩
  · refine Or.inr ⟨e, ?_, he⟩
    rw [StateT.run_bind, hy]
    rfl

/-- Looking at the reader is no step. -/
theorem get_bind {f : Reader → Read γ} {g : Reader → Read δ} (h : Follows refusable Q' (f r) r (g r') r') :
    Follows refusable Q' (get >>= f) r (get >>= g) r' :=
  h

/-- A check that refuses the first pattern. -/
theorem check {c c' : Prop} [Decidable c] [Decidable c'] {z : Read α} {w : Read β} (hc : c ↔ c')
    (hrefused : ∃ e, x.run r = .error e) (h : Follows refusable Q z r w r') :
    Follows refusable Q (if c then x else z) r (if c' then y else w) r' := by
  by_cases hcond : c
  · obtain ⟨e, he⟩ := hrefused
    rw [if_pos hcond]
    exact .refused he
  · rw [if_neg hcond, if_neg fun hcond' => hcond (hc.mpr hcond')]
    exact h

/-- A choice that both readers make alike. -/
theorem ite {c c' : Prop} [Decidable c] [Decidable c'] {z : Read α} {w : Read β} (hc : c ↔ c')
    (hthen : c → Follows refusable Q x r y r') (helse : ¬ c → Follows refusable Q z r w r') :
    Follows refusable Q (if c then x else z) r (if c' then y else w) r' := by
  by_cases hcond : c
  · rw [if_pos hcond, if_pos (hc.mp hcond)]
    exact hthen hcond
  · rw [if_neg hcond, if_neg fun hcond' => hcond (hc.mpr hcond')]
    exact helse hcond

/-- A choice that both readers make alike, with one step behind it. -/
theorem ite_bind {c : Prop} [Decidable c] {z : Read α} {w : Read β}
    (hthen : c → Follows refusable Q x r y r') (helse : ¬ c → Follows refusable Q z r w r')
    (hf : ∀ {a s b s'}, Q a s b s' → Follows refusable Q' (f a) s (g b) s') :
    Follows refusable Q' (if c then x >>= f else z >>= f) r (if c then y >>= g else w >>= g) r' :=
  .ite Iff.rfl (fun hc => (hthen hc).bind hf) fun hc => (helse hc).bind hf

/-- Nothing has to follow a step that is refused later on. -/
theorem refused_behind {z : Read δ} (h : ∀ a s, x.run r = .ok (a, s) → ∃ e, (f a).run s = .error e) :
    Follows refusable Q' (x >>= f) r z r' := by
  intro c t hrun
  obtain ⟨a, s, hx, hfa⟩ := bind_ok hrun
  obtain ⟨e, he⟩ := h a s hx
  rw [he] at hfa
  cases hfa

theorem modify {u u' : Reader → Reader} {Q : PUnit → Reader → PUnit → Reader → Prop}
    (h : Q ⟨⟩ (u r) ⟨⟩ (u' r')) : Follows refusable Q (modify u) r (modify u') r' := by
  intro a s hrun
  cases hrun
  exact Or.inl ⟨_, _, rfl, h⟩

end Follows

/-- The result of a step that leaves both readers in front of tokens that are alike. -/
def Ends (L : Char → Char → Prop) (n : Nat) (R : α → β → Prop) : α → Reader → β → Reader → Prop :=
  fun a s b s' => R a b ∧ Like L n s s'

/-! ## Single tokens -/

variable {n m : Nat} {r r' : Reader}

/-- The last of some tokens is a backslash at the end in both patterns or in none. -/
theorem getLast?_dangling_iff {ts us : List Token} (h : List.Forall₂ SameKind ts us) :
    ts.getLast? = some .dangling ↔ us.getLast? = some .dangling := by
  induction h with
  | nil => exact Iff.rfl
  | cons hk hrest ih =>
    cases hrest with
    | nil => simpa using hk.dangling
    | cons _ _ => simpa only [List.getLast?_cons_cons] using ih

theorem skip_run (k : Nat) (r : Reader) : (skip k).run r =
    if (r.rest.take (k + 1)).getLast? = some .dangling then
      .error ⟨.danglingBackslash, some (r.position + widthOf (r.rest.take (k + 1)).dropLast)⟩
    else .ok ((), { r with rest := r.rest.drop k, position := r.position + widthOf (r.rest.take k) }) := by
  unfold skip
  simp only [StateT.run_bind, StateT.run_get, pure_bind]
  split <;> rfl

/-- Passing over tokens. -/
theorem skip_follows (hL : Folds L refusable) (h : Like L n r r') {k : Nat}
    (hdrop : Alike L m (r.rest.drop k) (r'.rest.drop k)) :
    Follows refusable (Ends L m Eq) (skip k) r (skip k) r' := by
  have hkinds := h.rest.kinds hL
  have hlast := getLast?_dangling_iff (List.forall₂_take (k + 1) hkinds)
  intro a s hrun
  rw [skip_run] at hrun
  split at hrun
  · cases hrun
  · rename_i hother
    cases hrun
    refine Or.inl ⟨(), { r' with rest := r'.rest.drop k, position := r'.position + widthOf (r'.rest.take k) },
      ?_, rfl, ?_⟩
    · rw [skip_run, if_neg fun hdangling => hother (hlast.mpr hdangling)]
    · exact ⟨hdrop, by rw [h.position, widthOf_eq (List.forall₂_take k hkinds)], h.flags, h.groups, h.names,
        h.lookbehindGroups, h.asked⟩

/-- A token that has been taken. -/
inductive Taken (L : Char → Char → Prop) : Token → Reader → Token → Reader → Prop where
  | char {c d : Char} {s s' : Reader} (hcd : L c d) (h : Like L 0 s s') :
    Taken L (.char c) s (.char d) s'
  | escape (c : Char) {s s' : Reader} (h : Like L (digitsAfter c) s s') :
    Taken L (.escape c) s (.escape c) s'

/-- The next token, if there is one. -/
inductive TakenNext (L : Char → Char → Prop) : Option Token → Reader → Option Token → Reader → Prop where
  | none {s s' : Reader} (h : Like L 0 s s') : TakenNext L none s none s'
  | some {t t' : Token} {s s' : Reader} (h : Taken L t s t' s') : TakenNext L (some t) s (some t') s'

/-- Both tokens are the same sign, or both are none. -/
theorem Taken.sign (hL : Folds L refusable) {t t' : Token} {s s' : Reader} (h : Taken L t s t' s') {c : Char}
    (hc : Sign c) : t = .char c ↔ t' = .char c := by
  cases h with
  | escape => simp
  | char hcd _ =>
    rw [Token.char.injEq, Token.char.injEq]
    constructor
    · rintro rfl
      exact (hL.sign hcd (Or.inl hc)).symm
    · rintro rfl
      exact hL.sign hcd (Or.inr hc)

/-- A sign that has been taken is the same in both patterns, and items follow it; or both tokens are
something else. -/
@[elab_as_elim]
theorem Taken.sign_or (hL : Folds L refusable) {P : Token → Token → Prop} {t t' : Token} {s s' : Reader}
    (h : Taken L t s t' s') {c : Char} (hc : Sign c) (hsign : Like L 0 s s' → P (.char c) (.char c))
    (hother : ¬ t = .char c → ¬ t' = .char c → P t t') : P t t' := by
  by_cases ht : t = .char c
  · obtain rfl := (h.sign hL hc).mp ht
    subst ht
    cases h with
    | char _ hlike => exact hsign hlike
  · exact hother ht fun ht' => ht ((h.sign hL hc).mpr ht')

/-- The next token as it stands in front. -/
inductive Front (L : Char → Char → Prop) : List Token → List Token → Prop where
  | nil : Front L [] []
  | char {c d : Char} {ts us : List Token} (hcd : L c d) (h : Alike L 0 ts us) :
    Front L (.char c :: ts) (.char d :: us)
  | escape (c : Char) {ts us : List Token} (h : Alike L (digitsAfter c) ts us) :
    Front L (.escape c :: ts) (.escape c :: us)
  | dangling : Front L [.dangling] [.dangling]

theorem Alike.front {ts us : List Token} (h : Alike L 0 ts us) : Front L ts us := by
  cases h with
  | nil => exact .nil
  | char _ h hrest => exact .char h hrest
  | escape c hrest => exact .escape c hrest
  | dangling => exact .dangling

theorem next_follows (hL : Folds L refusable) (h : Like L 0 r r') :
    Follows refusable (TakenNext L) next r next r' := by
  unfold next peek
  simp only [bind_assoc, pure_bind]
  refine Follows.get_bind ?_
  have hskip : ∀ {m}, Alike L m (r.rest.drop 1) (r'.rest.drop 1) →
      Follows refusable (Ends L m Eq) (skip 1) r (skip 1) r' := fun hdrop => skip_follows hL h hdrop
  have hfront := h.rest.front
  generalize hts : r.rest = ts at hfront hskip
  generalize hus : r'.rest = us at hfront hskip
  cases hfront with
  | nil => exact (hskip .nil).bind fun hq => .pure (.none hq.2)
  | char hcd hrest => exact (hskip hrest).bind fun hq => .pure (.some (.char hcd hq.2))
  | escape c hrest => exact (hskip hrest).bind fun hq => .pure (.some (.escape c hq.2))
  | dangling =>
    refine Follows.refused (e := ⟨.danglingBackslash, some r.position⟩) ?_
    rw [StateT.run_bind, skip_run, hts]
    rfl

/-- A sign at the front. -/
theorem head?_sign_iff (hL : Folds L refusable) (h : Like L 0 r r') {c : Char} (hc : Sign c) :
    r.rest.head? = some (.char c) ↔ r'.rest.head? = some (.char c) := by
  have hfront := h.rest.front
  generalize r.rest = ts at hfront
  generalize r'.rest = us at hfront
  cases hfront with
  | nil | escape | dangling => simp
  | @char a b _ _ hcd _ =>
    simp only [List.head?_cons, Option.some.injEq, Token.char.injEq]
    constructor
    · rintro rfl
      exact (hL.sign hcd (Or.inl hc)).symm
    · rintro rfl
      exact hL.sign hcd (Or.inr hc)

theorem drop_one (h : Like L 0 r r') {c : Char} (hc : r.rest.head? = some (.char c)) :
    Alike L 0 (r.rest.drop 1) (r'.rest.drop 1) := by
  have hfront := h.rest.front
  generalize r.rest = ts at hfront hc
  generalize r'.rest = us at hfront
  cases hfront with
  | nil => exact .nil
  | escape | dangling => cases hc
  | char _ hrest => exact hrest

theorem drop_escape (h : Like L 0 r r') {c : Char} (hc : r.rest.head? = some (.escape c)) :
    Alike L (digitsAfter c) (r.rest.drop 1) (r'.rest.drop 1) := by
  have hfront := h.rest.front
  generalize r.rest = ts at hfront hc
  generalize r'.rest = us at hfront
  cases hfront with
  | nil | char | dangling => cases hc
  | escape c hrest =>
    cases hc
    exact hrest

/-- The tokens in front are the same, or they are two letters. -/
theorem letters_or_head? (h : Like L 0 r r') :
    (∃ c d ts us, r.rest = .char c :: ts ∧ r'.rest = .char d :: us ∧ L c d ∧ c ≠ d) ∨
      r.rest.head? = r'.rest.head? := by
  have hfront := h.rest.front
  generalize r.rest = ts at hfront
  generalize r'.rest = us at hfront
  cases hfront with
  | nil | dangling => exact Or.inr rfl
  | escape => exact Or.inr rfl
  | @char c d ts us hcd _ =>
    by_cases hsame : c = d
    · exact Or.inr (by rw [hsame]; rfl)
    · exact Or.inl ⟨c, d, ts, us, rfl, rfl, hcd, hsame⟩

/-- A sign at the front is one of the first pattern. -/
theorem sign_at_front (hL : Folds L refusable) (h : Like L 0 r r') {c : Char} (hc : Sign c)
    (hfront : r.rest.head? = some (.char c)) : L c c := by
  have halike := h.rest.front
  generalize r.rest = ts at halike hfront
  generalize r'.rest = us at halike
  cases halike with
  | nil | escape | dangling => cases hfront
  | char hcd _ =>
    cases hfront
    obtain rfl := hL.sign hcd (Or.inl hc)
    exact hcd

theorem accept_taken (hL : Folds L refusable) (h : Like L 0 r r') {c : Char} (hc : Sign c) :
    Follows refusable (Ends L 0 fun taken taken' => taken = taken' ∧ (taken = true → L c c)) (accept c) r
      (accept c) r' := by
  unfold accept peek
  simp only [bind_assoc, pure_bind]
  refine Follows.get_bind ?_
  by_cases hfront : r.rest.head? = some (.char c)
  · rw [if_pos hfront, if_pos ((head?_sign_iff hL h hc).mp hfront)]
    refine (skip_follows hL h (drop_one h hfront)).bind fun hq => .pure ⟨⟨rfl, fun _ => ?_⟩, hq.2⟩
    exact sign_at_front hL h hc hfront
  · rw [if_neg hfront, if_neg fun hfront' => hfront ((head?_sign_iff hL h hc).mpr hfront')]
    exact .pure ⟨⟨rfl, fun htaken => nomatch htaken⟩, h⟩

theorem accept_follows (hL : Folds L refusable) (h : Like L 0 r r') {c : Char} (hc : Sign c) :
    Follows refusable (Ends L 0 Eq) (accept c) r (accept c) r' :=
  (accept_taken hL h hc).mono fun hq => ⟨hq.1.1, hq.2⟩

/-! ## Runs of characters -/

theorem takeRun_run (k : Nat) (p : Char → Bool) (r : Reader) : (takeRun k p).run r =
    if (!(frontChars p k r.rest).isEmpty) = true then
      ((do skip (frontChars p k r.rest).length; return frontChars p k r.rest : Read (List Char))).run r
    else .ok (frontChars p k r.rest, r) := by
  unfold takeRun
  simp only [StateT.run_bind, StateT.run_get, pure_bind]
  split <;> rfl

/-- The characters that are taken are those at the front. -/
theorem takeRun_eq {k : Nat} {p : Char → Bool} {cs : List Char} {s : Reader}
    (h : (takeRun k p).run r = .ok (cs, s)) : cs = frontChars p k r.rest := by
  rw [takeRun_run] at h
  split at h
  · rw [StateT.run_bind, skip_run] at h
    split at h
    · cases h
    · cases h
      rfl
  · cases h
    rfl

theorem takeRun_follows (hL : Folds L refusable) {R : List Char → List Char → Prop} (h : Like L n r r')
    {k : Nat} {p : Char → Bool} (hR : R (frontChars p k r.rest) (frontChars p k r'.rest))
    (hlength : (frontChars p k r.rest).length = (frontChars p k r'.rest).length)
    (hdrop : Alike L m (r.rest.drop (frontChars p k r.rest).length)
      (r'.rest.drop (frontChars p k r.rest).length)) :
    Follows refusable (Ends L m R) (takeRun k p) r (takeRun k p) r' := by
  unfold takeRun
  refine Follows.get_bind (Follows.ite ?_ (fun _ => ?_) fun hempty => ?_)
  · rw [Bool.not_eq_true', Bool.not_eq_true', List.isEmpty_eq_false_iff, List.isEmpty_eq_false_iff,
      ← List.length_pos_iff, ← List.length_pos_iff, hlength]
  · rw [← hlength]
    exact (skip_follows hL h hdrop).bind fun hq => .pure ⟨hR, hq.2⟩
  · refine .pure ⟨hR, ?_⟩
    have hzero : (frontChars p k r.rest).length = 0 := by simpa using hempty
    rw [hzero] at hdrop
    exact ⟨hdrop, h.position, h.flags, h.groups, h.names, h.lookbehindGroups, h.asked⟩

/-- Digits at the front are the same in both patterns. -/
theorem frontChars_alike {p : Char → Bool} (hp : ∀ {c d}, L c d → p c = true ∨ p d = true → c = d) (k : Nat)
    {ts us : List Token} (h : Alike L 0 ts us) :
    frontChars p k ts = frontChars p k us ∧
      Alike L 0 (ts.drop (frontChars p k ts).length) (us.drop (frontChars p k ts).length) := by
  induction k generalizing ts us with
  | zero => exact ⟨rfl, h⟩
  | succ k ih =>
    cases h.front with
    | nil | dangling => exact ⟨rfl, h⟩
    | escape c hrest => exact ⟨rfl, h⟩
    | @char c d ts us hcd hrest =>
      rw [frontChars, frontChars]
      by_cases hc : p c = true
      · obtain rfl := hp hcd (Or.inl hc)
        obtain ⟨heq, hdrop⟩ := ih hrest
        rw [if_pos hc, if_pos hc, heq]
        rw [heq] at hdrop
        exact ⟨rfl, hdrop⟩
      · have hd : ¬ p d = true := fun hd => hc (hp hcd (Or.inr hd) ▸ hd)
        rw [if_neg hc, if_neg hd]
        exact ⟨rfl, h⟩

theorem takeRun_same (hL : Folds L refusable) (h : Like L 0 r r') {p : Char → Bool}
    (hp : ∀ {c d}, L c d → p c = true ∨ p d = true → c = d) (k : Nat) :
    Follows refusable (Ends L 0 Eq) (takeRun k p) r (takeRun k p) r' := by
  obtain ⟨heq, hdrop⟩ := frontChars_alike hp k h.rest
  exact takeRun_follows hL h heq (congrArg List.length heq) hdrop

/-- Digits are signs. -/
theorem sign_of_isDigit {c : Char} (h : c.isDigit = true) : Sign c :=
  Text.forall_ascii (P := fun c => c.isDigit = true → Sign c) (by decide +kernel)
    (Text.toNat_lt_of_isAlphanum (by simp [Char.isAlphanum, h])) h

theorem isDigit_of_isOctal {c : Char} (h : isOctal c = true) : c.isDigit = true := by
  unfold isOctal at h
  unfold Char.isDigit
  simp only [Bool.and_eq_true, decide_eq_true_eq] at h ⊢
  exact ⟨h.1, le_trans h.2 (by decide)⟩

theorem Folds.digit (hL : Folds L refusable) {c d : Char} (h : L c d)
    (hdigit : c.isDigit = true ∨ d.isDigit = true) : c = d :=
  hL.sign h (hdigit.imp sign_of_isDigit sign_of_isDigit)

theorem takeAll_same (hL : Folds L refusable) (h : Like L 0 r r') {p : Char → Bool}
    (hp : ∀ {c d}, L c d → p c = true ∨ p d = true → c = d) :
    Follows refusable (Ends L 0 Eq) (takeAll p) r (takeAll p) r' := by
  unfold takeAll
  refine Follows.get_bind ?_
  rw [(h.rest.kinds hL).length_eq]
  exact takeRun_same hL h hp _

theorem Folds.octal (hL : Folds L refusable) {c d : Char} (h : L c d)
    (hoctal : isOctal c = true ∨ isOctal d = true) : c = d :=
  hL.digit h (hoctal.imp isDigit_of_isOctal isDigit_of_isOctal)

/-- Digits that an escape asks for have the same values in both patterns. -/
theorem frontChars_digits {k : Nat} {ts us : List Token} (h : Alike L k ts us)
    (hall : (frontChars isHex k ts).length = k) :
    List.Forall₂ (fun c d => hexValue c = hexValue d) (frontChars isHex k ts) (frontChars isHex k us) ∧
      Alike L 0 (ts.drop k) (us.drop k) := by
  induction k generalizing ts us with
  | zero => exact ⟨.nil, h⟩
  | succ k ih =>
    cases h with
    | nil | dangling => cases hall
    | escape c hrest => cases hall
    | char hn _ _ =>
      rw [frontChars, if_neg (by simpa using hn)] at hall
      cases hall
    | digit hc hd hvalue hrest =>
      rw [frontChars, if_pos hc, List.length_cons] at hall
      obtain ⟨hvalues, hdrop⟩ := ih hrest (Nat.succ.inj hall)
      rw [frontChars, frontChars, if_pos hc, if_pos hd]
      exact ⟨.cons hvalue hvalues, hdrop⟩

theorem ofBase_eq (base : Nat) {cs ds : List Char}
    (h : List.Forall₂ (fun c d => hexValue c = hexValue d) cs ds) : ofBase base cs = ofBase base ds := by
  unfold ofBase
  generalize 0 = n
  induction h generalizing n with
  | nil => rfl
  | cons hvalue _ ih => rw [List.foldl_cons, List.foldl_cons, hvalue, ih]

/-! ## Escapes -/

theorem hexEscape_follows (hL : Folds L refusable) {k : Nat} (h : Like L k r r') (c : Char) :
    Follows refusable (Ends L 0 Eq) (hexEscape c k) r (hexEscape c k) r' := by
  unfold hexEscape
  by_cases hall : (frontChars isHex k r.rest).length = k
  · obtain ⟨hvalues, hdrop⟩ := frontChars_digits h.rest hall
    refine (takeRun_follows hL (m := 0) h hvalues hvalues.length_eq (by rwa [hall])).bind ?_
    rintro ds s ds' s' ⟨hds, hlike⟩
    have hlength := hds.length_eq
    dsimp only
    rw [ofBase_eq 16 hds, hlength]
    exact .check Iff.rfl ⟨_, rfl⟩ (.check Iff.rfl ⟨_, rfl⟩ (.check Iff.rfl ⟨_, rfl⟩ (.pure ⟨rfl, hlike⟩)))
  · refine .refused_behind fun ds s hrun => ?_
    rw [takeRun_eq hrun]
    dsimp only
    rw [if_pos hall]
    exact ⟨_, rfl⟩

theorem plainEscape_follows (h : Like L n r r') (c : Char) :
    Follows refusable (Ends L n Eq) (plainEscape c) r (plainEscape c) r' := by
  unfold plainEscape
  dsimp only
  exact .check Iff.rfl ⟨_, rfl⟩ (.pure ⟨rfl, h⟩)

theorem octalCode_follows (h : Like L n r r') (c : Char) (ds : List Char) :
    Follows refusable (Ends L n Eq) (octalCode c ds) r (octalCode c ds) r' := by
  unfold octalCode
  dsimp only
  exact .check Iff.rfl ⟨_, rfl⟩ (.pure ⟨rfl, h⟩)

/-- Only three escapes ask for hexadecimal digits. -/
theorem digitsAfter_eq_zero {c : Char} (hx : c ≠ 'x') (hu : c ≠ 'u') (hU : c ≠ 'U') : digitsAfter c = 0 := by
  rw [digitsAfter, if_neg hx, if_neg hu, if_neg hU]

end WordLint.Regex
