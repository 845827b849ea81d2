import Mathlib
import WordLint.Proofs.Regex.FollowingGroups

/-!
# Patterns in which characters are written as escapes

Five characters have an escape that means the same: the slash and the line terminators. A pattern is
`Spelled` as another one when the two differ only in that the second one has the escapes of some of these
characters; which characters may be replaced is said by `W`, and with none of them the two are equal.

`Quiet` says of a step of reading that it reads the same from both patterns when it succeeds on the first one,
and that it takes no opening bracket. Positions are left out of account: a refusal may be at another place,
and a success does not depend on places. The small steps of reading are quiet.
-/

namespace WordLint.Regex

variable {W : Char → Prop} {α β : Type}

/-! ## Tokens -/

/-- The escape that a character may be written as: its letter, and the digits behind it. -/
def spelling? : Char → Option (Char × List Char)
  | '/' => some ('/', [])
  | '\n' => some ('n', [])
  | '\r' => some ('r', [])
  | '\u2028' => some ('u', ['2', '0', '2', '8'])
  | '\u2029' => some ('u', ['2', '0', '2', '9'])
  | _ => none

/-- Some characters of the first pattern are written as escapes in the second one. -/
inductive Spelled (W : Char → Prop) : List Token → List Token → Prop where
  | nil : Spelled W [] []
  | same (t : Token) {ts us : List Token} (h : Spelled W ts us) : Spelled W (t :: ts) (t :: us)
  | written {c d : Char} {ds : List Char} {ts us : List Token} (hc : W c) (hd : spelling? c = some (d, ds))
    (h : Spelled W ts us) : Spelled W (.char c :: ts) (.escape d :: (ds.map .char ++ us))

theorem Spelled.refl (ts : List Token) : Spelled W ts ts := by
  induction ts with
  | nil => exact .nil
  | cons t ts ih => exact .same t ih

/-- The five characters and their escapes. -/
theorem spelling?_eq_some_iff {c d : Char} {ds : List Char} : spelling? c = some (d, ds) ↔
    c = '/' ∧ d = '/' ∧ ds = [] ∨ c = '\n' ∧ d = 'n' ∧ ds = [] ∨ c = '\r' ∧ d = 'r' ∧ ds = [] ∨
      c = '\u2028' ∧ d = 'u' ∧ ds = ['2', '0', '2', '8'] ∨
      c = '\u2029' ∧ d = 'u' ∧ ds = ['2', '0', '2', '9'] := by
  unfold spelling?
  constructor
  · intro h
    split at h <;> cases h <;> simp
  · rintro (⟨rfl, rfl, rfl⟩ | ⟨rfl, rfl, rfl⟩ | ⟨rfl, rfl, rfl⟩ | ⟨rfl, rfl, rfl⟩ | ⟨rfl, rfl, rfl⟩) <;> rfl

theorem spelling?_digits {c d : Char} {ds : List Char} (h : spelling? c = some (d, ds)) :
    ds.all Char.isDigit = true := by
  rcases spelling?_eq_some_iff.mp h with ⟨-, -, rfl⟩ | ⟨-, -, rfl⟩ | ⟨-, -, rfl⟩ | ⟨-, -, rfl⟩ | ⟨-, -, rfl⟩ <;>
    rfl

/-- A property of the five characters. -/
theorem forall_spelling? {P : Char → Prop}
    (h : P '/' ∧ P '\n' ∧ P '\r' ∧ P '\u2028' ∧ P '\u2029') {c : Char} (hc : (spelling? c).isSome) : P c := by
  obtain ⟨⟨d, ds⟩, hd⟩ := Option.isSome_iff_exists.mp hc
  rcases spelling?_eq_some_iff.mp hd with ⟨rfl, -⟩ | ⟨rfl, -⟩ | ⟨rfl, -⟩ | ⟨rfl, -⟩ | ⟨rfl, -⟩
  · exact h.1
  · exact h.2.1
  · exact h.2.2.1
  · exact h.2.2.2.1
  · exact h.2.2.2.2

/-- The last token is a backslash at the end in both patterns or in none. -/
theorem Spelled.getLast?_dangling {ts us : List Token} (h : Spelled W ts us)
    (hlast : us.getLast? = some .dangling) : ts.getLast? = some .dangling := by
  induction h with
  | nil => exact hlast
  | @same t ts us h ih =>
    cases h with
    | nil => exact hlast
    | same u h =>
      rw [List.getLast?_cons_cons] at hlast ⊢
      exact ih hlast
    | written hc hd h =>
      rw [List.getLast?_cons_cons] at hlast ⊢
      exact ih hlast
  | @written c d ds ts us hc hd h ih =>
    have hword : (Token.escape d :: ds.map .char).getLast? ≠ some .dangling := by
      intro hword
      have hmem := List.mem_of_getLast? hword
      simp at hmem
    cases us with
    | nil =>
      rw [List.append_nil] at hlast
      exact absurd hlast hword
    | cons u us =>
      have hbehind : (u :: us).getLast? = some .dangling := by
        rw [← List.cons_append, List.getLast?_append] at hlast
        simpa using hlast
      obtain ⟨v, vs, rfl⟩ : ∃ v vs, ts = v :: vs := by
        cases h <;> exact ⟨_, _, rfl⟩
      rw [List.getLast?_cons_cons]
      exact ih hbehind

/-- No token is left in both patterns or in none. -/
theorem Spelled.eq_nil_iff {ts us : List Token} (h : Spelled W ts us) : ts = [] ↔ us = [] := by
  cases h <;> simp

/-- A backslash at the end stands in front in both patterns or in none. -/
theorem Spelled.head?_dangling {ts us : List Token} (h : Spelled W ts us) :
    ts.head? = some .dangling ↔ us.head? = some .dangling := by
  cases h <;> simp

/-- A character that has no such escape stands in front in both patterns or in none. -/
theorem Spelled.head?_char {ts us : List Token} (h : Spelled W ts us) {k : Char} (hk : spelling? k = none) :
    ts.head? = some (.char k) ↔ us.head? = some (.char k) := by
  cases h with
  | nil => exact Iff.rfl
  | same => exact Iff.rfl
  | written hc hd =>
    simp only [List.head?_cons, Option.some.injEq, Token.char.injEq, reduceCtorEq, iff_false]
    rintro rfl
    rw [hk] at hd
    cases hd

/-- The tokens up to a character that has no escape, or is not replaced. -/
theorem Spelled.takeWhile {ts us : List Token} (h : Spelled W ts us) {k : Char} (hdigit : k.isDigit = false)
    (hk : spelling? k = none ∨ (W k → .char k ∉ ts)) :
    Spelled W (ts.takeWhile (· ≠ .char k)) (us.takeWhile (· ≠ .char k)) ∧
      Spelled W (ts.dropWhile (· ≠ .char k)) (us.dropWhile (· ≠ .char k)) := by
  induction h with
  | nil => exact ⟨.nil, .nil⟩
  | @same t ts us h ih =>
    have hrest := ih (hk.imp_right fun hw hwk hmem => hw hwk (List.mem_cons_of_mem _ hmem))
    by_cases ht : t = .char k
    · subst ht
      simp only [ne_eq, not_true_eq_false, decide_false, Bool.false_eq_true, not_false_eq_true,
        List.takeWhile_cons_of_neg, List.dropWhile_cons_of_neg]
      exact ⟨.nil, .same _ h⟩
    · simp only [ne_eq, ht, not_false_eq_true, decide_true, List.takeWhile_cons_of_pos,
        List.dropWhile_cons_of_pos]
      exact ⟨.same t hrest.1, hrest.2⟩
  | @written c d ds ts us hc hd h ih =>
    have hrest := ih (hk.imp_right fun hw hwk hmem => hw hwk (List.mem_cons_of_mem _ hmem))
    have hck : c ≠ k := by
      rintro rfl
      rcases hk with hk | hk
      · rw [hk] at hd
        cases hd
      · exact hk hc List.mem_cons_self
    have hword : ∀ t ∈ Token.escape d :: ds.map .char, decide (t ≠ .char k) = true := by
      intro t ht
      rcases List.mem_cons.mp ht with rfl | ht
      · simp
      · obtain ⟨e, he, rfl⟩ := List.mem_map.mp ht
        have hek : e ≠ k := by
          rintro rfl
          rw [List.all_eq_true.mp (spelling?_digits hd) e he] at hdigit
          cases hdigit
        simpa using hek
    rw [← List.cons_append, List.takeWhile_append_of_pos hword, List.dropWhile_append_of_pos hword,
      List.takeWhile_cons_of_pos (by simpa using hck), List.dropWhile_cons_of_pos (by simpa using hck)]
    exact ⟨.written hc hd hrest.1, hrest.2⟩

/-! ## Readers -/

/-- Two readers in front of patterns of which the second is spelled as the first, with the same knowledge of
what they have read. The places of what has been read may differ. -/
structure Twins (W : Char → Prop) (r r' : Reader) : Prop where
  rest : Spelled W r.rest r'.rest
  flags : r.flags = r'.flags
  groups : r.groups = r'.groups
  names : r.names = r'.names
  lookbehindGroups : r.lookbehindGroups = r'.lookbehindGroups
  asked : r.asked.map (·.1) = r'.asked.map (·.1)

/-- A reader that has taken tokens of a kind since it was `r`, and has set no flags. A backslash at the end
is never taken. -/
structure Passes (P : Token → Prop) (r s : Reader) : Prop where
  taken : ∃ taken, r.rest = taken ++ s.rest ∧ ∀ t ∈ taken, P t
  flags : s.flags = r.flags
  dangling : r.rest.getLast? = some .dangling → s.rest ≠ []

variable {P P' : Token → Prop} {r₀ r r' s s' t : Reader} {n : Nat}

theorem Passes.refl (r : Reader) : Passes P r r := by
  refine ⟨⟨[], rfl, fun _ ht => nomatch ht⟩, rfl, ?_⟩
  intro hlast hnil
  rw [hnil] at hlast
  cases hlast

/-- A backslash at the end stays at the end. -/
theorem Passes.getLast? (h : Passes P r s) (hlast : r.rest.getLast? = some .dangling) :
    s.rest.getLast? = some .dangling := by
  have hrest := h.dangling hlast
  obtain ⟨taken, htaken, _⟩ := h.taken
  rw [htaken, List.getLast?_append_of_ne_nil _ hrest] at hlast
  exact hlast

theorem Passes.trans (h : Passes P r s) (h' : Passes P s t) : Passes P r t := by
  obtain ⟨front, hfront, hP⟩ := h.taken
  obtain ⟨more, hmore, hP'⟩ := h'.taken
  refine ⟨⟨front ++ more, ?_, ?_⟩, h'.flags.trans h.flags, fun hlast => h'.dangling (h.getLast? hlast)⟩
  · rw [hfront, hmore, List.append_assoc]
  · intro t ht
    exact (List.mem_append.mp ht).elim (hP t) (hP' t)

theorem Passes.mono (h : Passes P r s) (hP : ∀ t, P t → P' t) : Passes P' r s := by
  obtain ⟨taken, htaken, hall⟩ := h.taken
  exact ⟨⟨taken, htaken, fun t ht => hP t (hall t ht)⟩, h.flags, h.dangling⟩

/-- Two readers side by side, of which the first has come from `r₀`. -/
structure Along (W : Char → Prop) (P : Token → Prop) (r₀ r r' : Reader) : Prop where
  twins : Twins W r r'
  passes : Passes P r₀ r

theorem Twins.along (h : Twins W r r') : Along W P r r r' :=
  ⟨h, .refl r⟩

theorem Along.through (h : Along W P r₀ r r') (h' : Along W P' r s s') (hP : ∀ t, P' t → P t) :
    Along W P r₀ s s' :=
  ⟨h'.twins, h.passes.trans (h'.passes.mono hP)⟩

/-- Nothing may be refused in the second pattern. -/
def Never (_ : Problem) : Prop :=
  False

/-- A step that comes to the same in both patterns and leaves the readers side by side. -/
def Level (W : Char → Prop) (P : Token → Prop) (r₀ : Reader) : α → Reader → α → Reader → Prop :=
  fun a s b s' => a = b ∧ Along W P r₀ s s'

/-- The places of readers do not count. -/
theorem Along.moved (h : Along W P r₀ r { r' with position := n }) : Along W P r₀ r r' :=
  ⟨⟨h.twins.rest, h.twins.flags, h.twins.groups, h.twins.names, h.twins.lookbehindGroups, h.twins.asked⟩,
    h.passes⟩

/-- A token that is no opening bracket. -/
def NoOpening (t : Token) : Prop :=
  t ≠ .char '['

/-- A step that reads the same from both patterns, with readers that have come from `r₀`, and takes no
opening bracket. -/
abbrev Quiet (W : Char → Prop) (r₀ : Reader) (x : Read α) (r : Reader) (y : Read α) (r' : Reader) : Prop :=
  Follows Never (Level W NoOpening r₀) x r y r'

/-- A sign that has been taken opens no set. -/
theorem Along.sign {k : Char} (h : Along W (· = .char k) r s s') (hk : k ≠ '[') : Along W NoOpening r s s' :=
  ⟨h.twins, h.passes.mono fun _ ht heq => hk (Token.char.inj (ht.symm.trans heq))⟩

/-- A step from where the readers are now, with readers that have come from further back. -/
theorem Along.follows {x y : Read α} (h : Along W P r₀ r r') (hxy : Follows Never (Level W P' r) x r y r')
    (hP : ∀ t, P' t → P t) : Follows Never (Level W P r₀) x r y r' :=
  hxy.mono fun hq => ⟨hq.1, h.through hq.2 hP⟩

/-! ## Single tokens -/

/-- The last of the tokens up to one position behind `k`. -/
theorem getLast?_take_succ (ts : List Token) (k : Nat) : (ts.take (k + 1)).getLast? =
    if ts.drop k = [] then ts.getLast? else (ts.drop k).head? := by
  by_cases hdrop : ts.drop k = []
  · rw [if_pos hdrop, List.take_of_length_le (Nat.le_succ_of_le (List.drop_eq_nil_iff.mp hdrop))]
  · have hlt : k < ts.length := Nat.lt_of_not_le (mt List.drop_eq_nil_iff.mpr hdrop)
    rw [if_neg hdrop, List.take_succ_eq_append_getElem hlt, List.getLast?_concat, List.head?_drop,
      List.getElem?_eq_getElem hlt]

/-- Passing over tokens, a number of them in the one pattern and a number in the other. -/
theorem skip_level {k k' : Nat} (h : Along W P r₀ r r') (hdrop : Spelled W (r.rest.drop k) (r'.rest.drop k'))
    (hP : ∀ t ∈ r.rest.take k, P t) : Follows Never (Level W P r₀) (skip k) r (skip k') r' := by
  intro a s hrun
  rw [skip_run] at hrun
  split at hrun
  · cases hrun
  · rename_i hother
    rw [getLast?_take_succ] at hother
    cases hrun
    refine Or.inl ⟨(), { r' with rest := r'.rest.drop k', position := r'.position + widthOf (r'.rest.take k') },
      ?_, rfl, ?_, ?_⟩
    · have hother' : ¬ (r'.rest.take (k' + 1)).getLast? = some .dangling := by
        rw [getLast?_take_succ]
        by_cases hend : r.rest.drop k = []
        · rw [if_pos hend] at hother
          rw [if_pos (hdrop.eq_nil_iff.mp hend)]
          exact fun hlast => hother (h.twins.rest.getLast?_dangling hlast)
        · rw [if_neg hend] at hother
          rw [if_neg (mt hdrop.eq_nil_iff.mpr hend)]
          exact fun hhead => hother (hdrop.head?_dangling.mpr hhead)
      rw [skip_run, if_neg hother']
    · exact ⟨hdrop, h.twins.flags, h.twins.groups, h.twins.names, h.twins.lookbehindGroups, h.twins.asked⟩
    · refine h.passes.trans ⟨⟨r.rest.take k, (List.take_append_drop k r.rest).symm, hP⟩, rfl, ?_⟩
      intro hlast hend
      rw [if_pos hend] at hother
      exact hother hlast

/-- A token that has been taken from both patterns. Behind the letter of an escape that is new in the second
one its digits are still to come. -/
inductive Pulled (W : Char → Prop) (r : Reader) : Token → Reader → Token → Reader → Prop where
  | same (t : Token) {s s' : Reader} (hfront : r.rest = t :: s.rest) (h : Along W (· = t) r s s') :
    Pulled W r t s t s'
  | written {c d : Char} {ds : List Char} {us : List Token} {s s' : Reader} (hfront : r.rest = .char c :: s.rest)
    (hc : W c) (hd : spelling? c = some (d, ds)) (hrest : s'.rest = ds.map .char ++ us)
    (hnext : us.head? ≠ some .dangling) (h : Along W (· = .char c) r s { s' with rest := us }) :
    Pulled W r (.char c) s (.escape d) s'

/-- The next token, if there is one. -/
inductive PulledNext (W : Char → Prop) (r : Reader) :
    Option Token → Reader → Option Token → Reader → Prop where
  | none {s s' : Reader} : PulledNext W r none s none s'
  | some {t t' : Token} {s s' : Reader} (h : Pulled W r t s t' s') :
    PulledNext W r (some t) s (some t') s'

/-- What has been taken from the first pattern. -/
theorem Pulled.passes {u u' : Token} (h : Pulled W r u s u' s') : Passes (· = u) r s := by
  cases h with
  | same t hfront h => exact h.passes
  | written hfront hc hd hrest hnext h => exact h.passes

theorem Pulled.front {u u' : Token} (h : Pulled W r u s u' s') : r.rest = u :: s.rest := by
  cases h with
  | same t hfront h => exact hfront
  | written hfront hc hd hrest hnext h => exact hfront

/-- The same token from both patterns leaves the readers side by side. -/
theorem Pulled.along {u : Token} (h : Pulled W r u s u s') : Along W (· = u) r s s' := by
  cases h with
  | same t hfront h => exact h

/-- Both tokens are the same character or none is, when that character has no escape. -/
theorem Pulled.sign {u u' : Token} (h : Pulled W r u s u' s') {k : Char} (hk : spelling? k = none) :
    u = .char k ↔ u' = .char k := by
  cases h with
  | same => exact Iff.rfl
  | written hfront hc hd =>
    simp only [Token.char.injEq, reduceCtorEq, iff_false]
    rintro rfl
    rw [hk] at hd
    cases hd

/-- What is read behind a character that has no escape, and behind any other token. -/
@[elab_as_elim]
theorem Pulled.sign_or {Q : Token → Token → Prop} {u u' : Token} (h : Pulled W r u s u' s') {k : Char}
    (hk : spelling? k = none)
    (hsign : r.rest = .char k :: s.rest → Along W (· = .char k) r s s' → Q (.char k) (.char k))
    (hother : ¬ u = .char k → ¬ u' = .char k → Q u u') : Q u u' := by
  by_cases hu : u = .char k
  · obtain rfl := (h.sign hk).mp hu
    subst hu
    cases h with
    | same t hfront h => exact hsign hfront h
  · exact hother hu (mt (h.sign hk).mpr hu)

/-- Passing over one token: no backslash at the end comes behind it. -/
theorem skip_one_run {u : Token} {ts : List Token} (hts : r.rest = u :: ts) (hu : u ≠ .dangling) :
    (skip 1).run r = if ts.head? = some .dangling then
        .error ⟨.danglingBackslash, some (r.position + widthOf (r.rest.take 2).dropLast)⟩
      else .ok ((), { r with rest := ts, position := r.position + widthOf [u] }) := by
  have hlast : (r.rest.take (1 + 1)).getLast? = some .dangling ↔ ts.head? = some .dangling := by
    rw [getLast?_take_succ, hts, List.drop_one, List.tail_cons]
    cases ts with
    | nil => simpa using hu
    | cons v ts => rw [if_neg (List.cons_ne_nil v ts)]
  rw [skip_run]
  simp only [hlast]
  rw [hts]
  rfl

/-- The token at the front, with one more step behind it. -/
theorem skip_pulls (h : Twins W r r') {u u' : Token} {ts us : List Token} (hts : r.rest = u :: ts)
    (hus : r'.rest = u' :: us) :
    Follows Never (fun _ s _ s' => Pulled W r u s u' s') (skip 1) r (skip 1) r' := by
  have hrest := h.rest
  rw [hts, hus] at hrest
  cases hrest with
  | same u hrest =>
    intro _ s hrun
    have hfront : r.rest = u :: s.rest := by
      rw [skip_run] at hrun
      split at hrun
      · cases hrun
      · cases hrun
        rw [hts]
        rfl
    have hlevel : Follows Never (Level W (· = u) r) (skip 1) r (skip 1) r' := by
      refine skip_level h.along ?_ ?_
      · rw [hts, hus]
        exact hrest
      · rw [hts]
        simp
    rcases hlevel () s hrun with ⟨_, s', hrun', hq⟩ | ⟨_, _, hnever⟩
    · exact Or.inl ⟨(), s', hrun', .same u hfront hq.2⟩
    · exact hnever.elim
  | @written c d ds _ us' hc hd hrest =>
    -- the digits of the escape are left where they are
    intro _ s hrun
    rw [skip_one_run hts (by simp)] at hrun
    split at hrun
    · cases hrun
    · rename_i hnext
      cases hrun
      have hnext' : us'.head? ≠ some .dangling := mt hrest.head?_dangling.mpr hnext
      have hfront : (ds.map Token.char ++ us').head? ≠ some .dangling := by
        cases ds with
        | nil => exact hnext'
        | cons e ds => simp
      refine Or.inl ⟨(), _, by rw [skip_one_run hus (by simp), if_neg hfront], .written hts hc hd rfl hnext' ?_⟩
      refine ⟨⟨hrest, h.flags, h.groups, h.names, h.lookbehindGroups, h.asked⟩, ⟨[.char c], hts, by simp⟩, rfl, ?_⟩
      rintro hlast rfl
      rw [hts] at hlast
      cases hlast

theorem next_pulls (h : Twins W r r') : Follows Never (PulledNext W r) next r next r' := by
  unfold next peek
  simp only [bind_assoc, pure_bind]
  refine Follows.get_bind ?_
  cases hts : r.rest with
  | nil =>
    have hus : r'.rest = [] := h.rest.eq_nil_iff.mp hts
    rw [hus]
    refine (skip_level (P := fun _ => True) h.along ?_ fun _ _ => trivial).bind
      fun _ => .pure .none
    rw [hts, hus]
    exact .nil
  | cons u ts =>
    obtain ⟨u', us, hus⟩ : ∃ u' us, r'.rest = u' :: us :=
      List.exists_cons_of_ne_nil (mt h.rest.eq_nil_iff.mpr (by rw [hts]; simp))
    rw [hus]
    exact (skip_pulls h hts hus).bind fun hq => .pure (.some hq)

/-- Taking a character that has no escape. -/
theorem accept_level (h : Along W P r₀ r r') {k : Char} (hk : spelling? k = none) (hP : P (.char k)) :
    Follows Never (Level W P r₀) (accept k) r (accept k) r' := by
  unfold accept peek
  simp only [bind_assoc, pure_bind]
  refine Follows.get_bind (.ite (h.twins.rest.head?_char hk) (fun hfront => ?_) fun _ => .pure ⟨rfl, h⟩)
  obtain ⟨ts, hts⟩ := List.head?_eq_some_iff.mp hfront
  obtain ⟨us, hus⟩ := List.head?_eq_some_iff.mp ((h.twins.rest.head?_char hk).mp hfront)
  refine (skip_pulls h.twins hts hus).bind fun {_ s _ s'} hq => .pure ⟨rfl, ?_⟩
  cases hq with
  | same t hfront hs => exact h.through hs (by rintro _ rfl; exact hP)

/-! ## Runs of characters -/

/-- The characters at the front that have a property, when none of the five has it. -/
theorem Spelled.frontChars {p : Char → Bool} (hp : ∀ c, (spelling? c).isSome → p c = false) (k : Nat)
    {ts us : List Token} (h : Spelled W ts us) :
    frontChars p k ts = frontChars p k us ∧
      Spelled W (ts.drop (frontChars p k ts).length) (us.drop (frontChars p k ts).length) := by
  induction k generalizing ts us with
  | zero => exact ⟨rfl, h⟩
  | succ k ih =>
    cases h with
    | nil => exact ⟨rfl, .nil⟩
    | written hc hd h =>
      have hnone := hp _ (Option.isSome_iff_exists.mpr ⟨_, hd⟩)
      rw [WordLint.Regex.frontChars, if_neg (by rw [hnone]; exact Bool.false_ne_true)]
      exact ⟨rfl, .written hc hd h⟩
    | @same t ts us h =>
      cases t with
      | escape | dangling => exact ⟨rfl, .same _ h⟩
      | char c =>
        rw [WordLint.Regex.frontChars, WordLint.Regex.frontChars]
        split
        · obtain ⟨heq, hdrop⟩ := ih h
          rw [heq] at hdrop ⊢
          exact ⟨rfl, hdrop⟩
        · exact ⟨rfl, .same _ h⟩

/-- The characters at the front are tokens at the front. -/
theorem take_frontChars (p : Char → Bool) (k : Nat) (ts : List Token) :
    ∀ t ∈ ts.take (frontChars p k ts).length, ∃ c, t = .char c ∧ p c = true := by
  fun_induction frontChars p k ts with
  | case1 most c rest hc ih =>
    rw [List.length_cons, List.take_succ_cons]
    exact List.forall_mem_cons.mpr ⟨⟨c, rfl, hc⟩, ih⟩
  | case2 => exact fun _ ht => nomatch ht
  | case3 => exact fun _ ht => nomatch ht

/-- What is needed of a property of characters to take a run of them. -/
structure Ordinary (P : Token → Prop) (p : Char → Bool) : Prop where
  spelling : ∀ c, (spelling? c).isSome → p c = false
  taken : ∀ c, p c = true → P (.char c)

theorem takeRun_level (h : Along W P r₀ r r') {p : Char → Bool} (hp : Ordinary P p) (k : Nat) :
    Follows Never (Level W P r₀) (takeRun k p) r (takeRun k p) r' := by
  obtain ⟨heq, hdrop⟩ := h.twins.rest.frontChars hp.spelling k
  unfold takeRun
  refine Follows.get_bind ?_
  dsimp only
  rw [← heq]
  refine .ite Iff.rfl (fun _ => ?_) fun _ => .pure ⟨rfl, h⟩
  refine (skip_level h hdrop fun t ht => ?_).bind fun hq => .pure ⟨rfl, hq.2⟩
  obtain ⟨c, rfl, hc⟩ := take_frontChars p k r.rest t ht
  exact hp.taken c hc

/-- There are no more characters at the front than there are tokens. -/
theorem frontChars_of_length_le (p : Char → Bool) {k : Nat} {ts : List Token} (h : ts.length ≤ k) :
    frontChars p k ts = frontChars p ts.length ts := by
  induction ts generalizing k with
  | nil => cases k <;> rfl
  | cons t ts ih =>
    obtain ⟨k, rfl⟩ : ∃ n, k = n + 1 := ⟨k - 1, by rw [List.length_cons] at h; omega⟩
    cases t with
    | escape | dangling => rfl
    | char c =>
      rw [List.length_cons, frontChars, frontChars, ih (Nat.le_of_succ_le_succ h)]

theorem Spelled.length_le {ts us : List Token} (h : Spelled W ts us) : ts.length ≤ us.length := by
  induction h with
  | nil => exact Nat.le_refl 0
  | same t h ih => exact Nat.succ_le_succ ih
  | written hc hd h ih =>
    simp only [List.length_cons, List.length_append]
    omega

theorem takeAll_level (h : Along W P r₀ r r') {p : Char → Bool} (hp : Ordinary P p) :
    Follows Never (Level W P r₀) (takeAll p) r (takeAll p) r' := by
  unfold takeAll
  refine Follows.get_bind ?_
  have hlong : (takeRun r.rest.length p).run r = (takeRun r'.rest.length p).run r := by
    rw [takeRun_run, takeRun_run, frontChars_of_length_le p h.twins.rest.length_le]
  unfold Follows
  rw [hlong]
  exact takeRun_level h hp _

end WordLint.Regex
