import Mathlib
import WordLint.Proofs.Regex.RespellingNames

/-!
# Openings of groups that are spelled alike

Flags and comments read the same from a pattern and from one in which characters are written as escapes, and so
do the openings of groups (`extension_level`). An opening is quiet but for a comment, whose text is passed over.
It also tells where flags come from: the flag that makes a pattern verbose has been set by its letter.
-/

namespace WordLint.Regex

variable {W : Char → Prop} {P : Token → Prop} {r₀ r r' s s' t : Reader} {k : Char}

/-! ## Flags -/

/-- Between the two readers there are letters of flags first, and the pattern has become verbose by one of
them: if `now` has that flag, `known` has it or the letter is there. -/
def Lettered (r s : Reader) (known now : List Flag) : Prop :=
  ∃ (cs : List Char) (v : List Token), r.rest = cs.map .char ++ (v ++ s.rest) ∧
    (∀ c ∈ cs, (Flag.ofLetter? c).isSome) ∧ (.verbose ∈ now → .verbose ∈ known ∨ 'x' ∈ cs)

/-- Only its letter makes a pattern verbose. -/
theorem eq_of_ofLetter?_verbose {c : Char} (h : Flag.ofLetter? c = some .verbose) : c = 'x' := by
  unfold Flag.ofLetter? at h
  split at h <;> cases h
  rfl

/-- What goes on behind the letter of a flag. -/
theorem flagOr_then {α : Type} {Q : α → Reader → α → Reader → Prop} {t t' : Token} {absent : Problem}
    {f g : Flag → Read α} (h : Pulled W r t s t' s')
    (hf : ∀ c flag, t = .char c → Flag.ofLetter? c = some flag → Along W (· = .char c) r s s' →
      Follows Never Q (f flag) s (g flag) s') :
    Follows Never Q (flagOr absent t >>= f) s (flagOr absent t' >>= g) s' := by
  cases h with
  | same t hfront h =>
    cases t with
    | escape | dangling => exact .refused rfl
    | char c =>
      unfold flagOr
      dsimp only
      cases hflag : Flag.ofLetter? c with
      | none => exact .refused rfl
      | some flag => exact hf c flag rfl hflag h
  | @written c d ds us _ _ hfront hc hd =>
    have hnone : Flag.ofLetter? c = none := forall_spelling? (P := fun c => Flag.ofLetter? c = none) (by decide)
      (Option.isSome_iff_exists.mpr ⟨_, hd⟩)
    refine .refused (e := ⟨if Text.isLetter c then .unknownFlag else absent, some (s.position - 1)⟩) ?_
    unfold flagOr
    dsimp only
    rw [hnone]
    rfl

/-- The letter of a flag is no opening bracket. -/
theorem Along.letter {c : Char} {flag : Flag} (h : Along W NoOpening r₀ r r') (hflag : Flag.ofLetter? c = some flag)
    (hs : Along W (· = .char c) r s s') : Along W NoOpening r₀ s s' := by
  refine h.through hs ?_
  rintro _ rfl heq
  cases heq
  cases hflag

theorem removedFlags_quiet {fuel fuel' : Nat} (hfuel : fuel ≤ fuel') (taken : List Flag) (flag : Flag)
    (h : Along W NoOpening r₀ r r') :
    Quiet W r₀ (removedFlags fuel taken flag) r (removedFlags fuel' taken flag) r' := by
  induction fuel generalizing fuel' taken flag r r' with
  | zero => exact .refused rfl
  | succ fuel ih =>
    obtain ⟨fuel', rfl⟩ : ∃ n, fuel' = n + 1 := ⟨fuel' - 1, by omega⟩
    rw [removedFlags, removedFlags]
    dsimp only
    refine .check Iff.rfl ⟨_, rfl⟩ ((next_pulls h.twins).bind ?_)
    rintro t s t' s' hnext
    cases hnext with
    | none => exact .refused rfl
    | @some t t' _ _ hpulled =>
      refine hpulled.sign_or (k := ':') rfl (fun hfront hs => .pure ⟨rfl, h.through hs ?_⟩) fun hcolon hcolon' => ?_
      · rintro _ rfl ⟨⟩
      · simp only
        exact flagOr_then hpulled fun c flag _ hflag hs =>
          ih (Nat.le_of_succ_le_succ hfuel) _ flag (h.letter hflag hs)

theorem Lettered.sign {known : List Flag} {u : Token} (h : r.rest = u :: s.rest) : Lettered r s known known :=
  ⟨[], [u], h, (fun _ hc => nomatch hc), Or.inl⟩

theorem Lettered.letter {known now : List Flag} {flag : Flag} {c : Char} (hfront : r.rest = .char c :: s.rest)
    (hflag : Flag.ofLetter? c = some flag) (h : Lettered s t (known ++ [flag]) now) : Lettered r t known now := by
  obtain ⟨cs, v, hrest, hcs, hverbose⟩ := h
  refine ⟨c :: cs, v, by rw [hfront, hrest]; rfl, ?_, fun hnow => ?_⟩
  · exact List.forall_mem_cons.mpr ⟨by rw [hflag]; rfl, hcs⟩
  · rcases hverbose hnow with hknown | hx
    · rcases List.mem_append.mp hknown with hknown | hnew
      · exact Or.inl hknown
      · rw [List.mem_singleton] at hnew
        rw [← hnew] at hflag
        exact Or.inr (eq_of_ofLetter?_verbose hflag ▸ List.mem_cons_self)
    · exact Or.inr (List.mem_cons_of_mem _ hx)

/-- The flags to add come from their letters. -/
theorem addedFlags_quiet {fuel fuel' : Nat} (hfuel : fuel ≤ fuel') (taken : List Flag) (flag : Flag)
    (h : Along W NoOpening r₀ r r') :
    Follows Never (fun a s b s' => a = b ∧ Along W NoOpening r₀ s s' ∧ Lettered r s (taken ++ [flag]) a.1)
      (addedFlags fuel taken flag) r (addedFlags fuel' taken flag) r' := by
  induction fuel generalizing fuel' taken flag r r' with
  | zero => exact .refused rfl
  | succ fuel ih =>
    obtain ⟨fuel', rfl⟩ : ∃ n, fuel' = n + 1 := ⟨fuel' - 1, by omega⟩
    rw [addedFlags, addedFlags]
    dsimp only
    refine .check Iff.rfl ⟨_, rfl⟩ (.check Iff.rfl ⟨_, rfl⟩ ((next_pulls h.twins).bind ?_))
    rintro t s t' s' hnext
    cases hnext with
    | none => exact .refused rfl
    | @some t t' _ _ hpulled =>
      have hfront := hpulled.front
      refine hpulled.sign_or (k := ')') rfl (fun hfront hs => ?_) fun hclose hclose' => ?_
      · exact .pure ⟨rfl, h.through hs (by rintro _ rfl ⟨⟩), .sign hfront⟩
      refine hpulled.sign_or (k := '-') rfl (fun hfront hs => ?_) fun hhyphen hhyphen' => ?_
      · exact .pure ⟨rfl, h.through hs (by rintro _ rfl ⟨⟩), .sign hfront⟩
      refine hpulled.sign_or (k := ':') rfl (fun hfront hs => ?_) fun hcolon hcolon' => ?_
      · exact .pure ⟨rfl, h.through hs (by rintro _ rfl ⟨⟩), .sign hfront⟩
      simp only
      refine flagOr_then hpulled fun c flag hc hflag hs => ?_
      refine (ih (Nat.le_of_succ_le_succ hfuel) _ flag (h.letter hflag hs)).mono fun hq => ?_
      exact ⟨hq.1, hq.2.1, .letter (hc ▸ hfront) hflag hq.2.2⟩

theorem Lettered.behind {known now : List Flag} (h : Lettered r s known now) (hst : Passes P s t) :
    Lettered r t known now := by
  obtain ⟨cs, v, hrest, hcs, hverbose⟩ := h
  obtain ⟨more, hmore, _⟩ := hst.taken
  exact ⟨cs, v ++ more, by rw [hrest, hmore, List.append_assoc], hcs, hverbose⟩

/-- Where the flags that are added come from: from letters in front. -/
def FlagGroup.From (r s : Reader) : FlagGroup → Prop
  | .global => ∃ add, Lettered r s [] add ∧ s.flags = r.flags ++ add
  | .scoped add _ => Lettered r s [] add ∧ s.flags = r.flags

/-- What is behind the flags to remove. -/
def scopedFlags (add remove : List Flag) : Read FlagGroup := do
  if remove.contains .template then failBack 1 .globalFlagOff
  if add.any remove.contains then failBack 1 .flagOnAndOff
  return .scoped add remove

/-- A reader that has come from `r` when the flags it may have set are left out of account. -/
abbrev PassesFlags (P : Token → Prop) (r s : Reader) : Prop :=
  Passes P r { s with flags := r.flags }

theorem Passes.withFlags (h : Passes P r s) : PassesFlags P r s :=
  ⟨h.taken, rfl, h.dangling⟩

/-- A list of flags has been read from both patterns. -/
abbrev Flagged (W : Char → Prop) (r : Reader) : FlagGroup → Reader → FlagGroup → Reader → Prop :=
  fun g s g' s' => g = g' ∧ Twins W s s' ∧ PassesFlags NoOpening r s ∧ g.From r s

theorem scopedFlags_level {add : List Flag} (remove : List Flag) (h : Along W NoOpening r s s')
    (hadd : Lettered r s [] add) :
    Follows Never (Flagged W r) (scopedFlags add remove) s (scopedFlags add remove) s' :=
  .check Iff.rfl ⟨_, rfl⟩ (.check Iff.rfl ⟨_, rfl⟩
    (.pure ⟨rfl, h.twins, h.passes.withFlags, hadd, h.passes.flags⟩))

/-- What a list of flags stands for, behind its first sign. -/
theorem flagGroup_level {first : Option Flag} {u : Token} (hfront : r.rest = u :: s.rest)
    (hfirst : ∀ flag, first = some flag → ∃ c, u = .char c ∧ Flag.ofLetter? c = some flag)
    (h : Along W NoOpening r s s') :
    Follows Never (Flagged W r) (flagGroup first) s (flagGroup first) s' := by
  have hfuel : s.rest.length + 1 ≤ s'.rest.length + 1 := Nat.succ_le_succ h.twins.rest.length_le
  unfold flagGroup
  refine Follows.get_bind ?_
  cases first
  case' none =>
    refine (Follows.pure (Q := fun a t b t' => a = b ∧ Along W NoOpening r t t' ∧ Lettered r t [] a.1)
      ⟨rfl, h, .sign hfront⟩).bind ?_
  case' some flag =>
    obtain ⟨c, rfl, hflag⟩ := hfirst flag rfl
    refine ((addedFlags_quiet hfuel [] flag h.twins.along).mono (R := fun a t b t' => a = b ∧
      Along W NoOpening r t t' ∧ Lettered r t [] a.1) fun hq =>
        ⟨hq.1, h.through hq.2.1 fun _ => id, .letter hfront hflag hq.2.2⟩).bind ?_
  -- with flags to add or without, the list goes on alike
  all_goals
    rintro ⟨add, sign⟩ t _ t' ⟨rfl, ht, hadd⟩
    refine .ite Iff.rfl (fun _ => ?_) fun _ => .check Iff.rfl ⟨_, rfl⟩ (.ite Iff.rfl (fun _ => ?_) fun _ => ?_)
    · refine (Follows.modify (Q := fun _ v _ v' => Twins W v v' ∧ PassesFlags NoOpening r v ∧
        FlagGroup.global.From r v) ⟨?_, ht.passes.withFlags, add, hadd, ?_⟩).bind fun hq => .pure ⟨rfl, hq⟩
      · exact ⟨ht.twins.rest, congrArg (· ++ add) ht.twins.flags, ht.twins.groups, ht.twins.names,
          ht.twins.lookbehindGroups, ht.twins.asked⟩
      · exact congrArg (· ++ add) ht.passes.flags
    · refine (next_pulls ht.twins).bind ?_
      rintro u v u' v' hnext
      cases hnext with
      | none => exact .refused rfl
      | some hpulled =>
        refine flagOr_then hpulled fun c flag hc hflag hv => ?_
        refine (removedFlags_quiet hfuel [] flag (ht.twins.along.letter hflag hv)).bind ?_
        rintro remove w _ w' ⟨rfl, hw⟩
        exact scopedFlags_level remove (ht.through hw fun _ => id) (hadd.behind hw.passes)
    · exact scopedFlags_level [] ht hadd

/-! ## Comments -/

theorem rest_of_skip {n : Nat} {u : Unit} (h : (skip n).run r = .ok (u, s)) : s.rest = r.rest.drop n := by
  rw [skip_run] at h
  split at h
  · cases h
  · cases h
    rfl

/-- Tokens up to a character, that character unless it is missing, and what is behind it. -/
theorem takeWhile_append_drop (k : Char) (ts : List Token) : ∃ v,
    ts = ts.takeWhile (· ≠ .char k) ++ (v ++ ts.drop ((ts.takeWhile (· ≠ .char k)).length + 1)) ∧
      (v = [.char k] ∨ v = [] ∧ ts.takeWhile (· ≠ .char k) = ts) := by
  induction ts with
  | nil => exact ⟨[], rfl, Or.inr ⟨rfl, rfl⟩⟩
  | cons t ts ih =>
    obtain ⟨v, hts, hv⟩ := ih
    by_cases ht : t = .char k
    · subst ht
      exact ⟨[.char k], by simp, Or.inl rfl⟩
    · rw [List.takeWhile_cons_of_pos (by simpa using ht)]
      exact ⟨v, congrArg (t :: ·) hts, hv.imp_right fun hv => ⟨hv.1, congrArg (t :: ·) hv.2⟩⟩

/-- What is behind a character is spelled alike when that character is not replaced. -/
theorem Spelled.drop_behind {ts us : List Token} (h : Spelled W ts us) (hdigit : k.isDigit = false)
    (hk : spelling? k = none ∨ (W k → .char k ∉ ts)) :
    Spelled W (ts.drop ((ts.takeWhile (· ≠ .char k)).length + 1))
      (us.drop ((us.takeWhile (· ≠ .char k)).length + 1)) := by
  have hdrop : ∀ vs : List Token, vs.drop ((vs.takeWhile (· ≠ .char k)).length + 1) =
      (vs.dropWhile (· ≠ .char k)).drop 1 := by
    intro vs
    induction vs with
    | nil => rfl
    | cons v vs ih =>
      by_cases hv : v = .char k
      · simp [hv]
      · rw [List.takeWhile_cons_of_pos (by simpa using hv), List.dropWhile_cons_of_pos (by simpa using hv)]
        exact ih
  have hbehind := (h.takeWhile hdigit hk).2
  rw [hdrop, hdrop]
  generalize hts : ts.dropWhile (· ≠ .char k) = vs at hbehind
  generalize us.dropWhile (· ≠ .char k) = ws at hbehind
  cases hbehind with
  | nil => exact .nil
  | same t hrest => exact hrest
  | @written c d ds vs ws hc hd hrest =>
    have hck : c = k := by
      have hhead := List.head?_dropWhile_not (· ≠ .char k) ts
      rw [hts] at hhead
      simpa using hhead
    subst hck
    rcases hk with hk | hk
    · rw [hk] at hd
      cases hd
    · refine absurd ((List.dropWhile_suffix (· ≠ .char c)).subset ?_) (hk hc)
      rw [hts]
      exact List.mem_cons_self

/-- A reader that has passed over text up to a character, and over that character unless it is missing. -/
structure PassesText (k : Char) (r s : Reader) : Prop where
  taken : ∃ v, r.rest = r.rest.takeWhile (· ≠ .char k) ++ (v ++ s.rest) ∧
    (v = [.char k] ∨ v = [] ∧ r.rest.takeWhile (· ≠ .char k) = r.rest)
  flags : s.flags = r.flags
  dangling : r.rest.getLast? = some .dangling → s.rest ≠ []

/-- Passing over text up to a character that is not replaced, and over that character. -/
theorem skipText_level (h : Twins W r r') (hdigit : k.isDigit = false)
    (hk : spelling? k = none ∨ (W k → .char k ∉ r.rest)) :
    Follows Never (fun _ s _ s' => Twins W s s' ∧ PassesText k r s)
      (skip ((r.rest.takeWhile (· ≠ .char k)).length + 1)) r
      (skip ((r'.rest.takeWhile (· ≠ .char k)).length + 1)) r' := by
  have hlevel := skip_level (P := AnyToken) h.along (h.rest.drop_behind hdigit hk) fun _ _ => trivial
  refine hlevel.ran.mono fun {_ s _ s'} hq => ⟨hq.2.2.twins, ?_, hq.2.2.passes.flags, hq.2.2.passes.dangling⟩
  obtain ⟨v, hrest, hv⟩ := takeWhile_append_drop k r.rest
  rw [← rest_of_skip hq.1] at hrest
  exact ⟨v, hrest, hv⟩

/-- A comment of a verbose pattern, whose line does not end in a character that is replaced. -/
theorem skipLine_level (h : Twins W r r') (hline : W '\n' → .char '\n' ∉ r.rest) :
    Follows Never (fun _ s _ s' => Twins W s s' ∧ PassesText '\n' r s) skipLine r skipLine r' :=
  Follows.get_bind (skipText_level h (by decide) (Or.inr hline))

/-- A group that is a comment. -/
theorem skipComment_level (h : Twins W r r') (start start' : Nat) :
    Follows Never (fun _ s _ s' => Twins W s s' ∧ PassesText ')' r s ∧
        ∃ body, r.rest = body ++ .char ')' :: s.rest ∧ .char ')' ∉ body)
      (skipComment start) r (skipComment start') r' := by
  have hwhole : ∀ ts : List Token, (ts.takeWhile (· ≠ .char ')')).length = ts.length ↔
      ts.dropWhile (· ≠ .char ')') = [] := by
    intro ts
    have hlength := congrArg List.length (List.takeWhile_append_dropWhile (p := (· ≠ .char ')')) (l := ts))
    rw [List.length_append] at hlength
    rw [← List.length_eq_zero_iff]
    omega
  have hsame := (h.rest.takeWhile (k := ')') (by decide) (Or.inl rfl)).2.eq_nil_iff
  unfold skipComment
  refine Follows.get_bind (.ite ?_ (fun _ => ?_) fun hmore => ?_)
  · rw [hwhole, hwhole]
    exact hsame
  · exact .refused_behind fun _ _ _ => ⟨_, rfl⟩
  · refine (skipText_level h (by decide) (Or.inl rfl)).mono fun hq => ⟨hq.1, hq.2, ?_⟩
    obtain ⟨v, hrest, rfl | ⟨-, hall⟩⟩ := hq.2.taken
    · exact ⟨_, hrest, fun hmem => by simpa using List.mem_takeWhile_imp hmem⟩
    · exact absurd (congrArg List.length hall) hmore

/-! ## Openings -/

/-- Letters of flags come first, and one of them makes the pattern verbose. -/
def Switches (ts : List Token) : Prop :=
  ∃ (cs : List Char) (v : List Token), ts = cs.map .char ++ v ∧ (∀ c ∈ cs, (Flag.ofLetter? c).isSome) ∧ 'x' ∈ cs

theorem Lettered.switches {now : List Flag} {taken : List Token} (h : Lettered r s [] now)
    (hrest : r.rest = taken ++ s.rest) (hnow : .verbose ∈ now) : Switches taken := by
  obtain ⟨cs, v, hletters, hcs, hverbose⟩ := h
  rw [hrest, ← List.append_assoc] at hletters
  exact ⟨cs, v, List.append_cancel_right hletters, hcs, (hverbose hnow).resolve_left List.not_mem_nil⟩

/-- The tokens of an opening, behind its question mark: no bracket is among them, or they are a comment. If they
set the flag that makes the pattern verbose, its letter is there. -/
structure Opens (o : Opening) (before after : List Flag) (taken : List Token) : Prop where
  brackets : (∀ t ∈ taken, NoOpening t) ∨
    ∃ body, taken = .char '#' :: (body ++ [.char ')']) ∧ .char ')' ∉ body
  flags : .verbose ∈ after → .verbose ∈ before ∨ Switches taken
  added : ∀ add remove, o = .plain add remove → .verbose ∈ add → Switches taken

/-- The opening of a group has been read from both patterns. -/
def Extended (W : Char → Prop) (r : Reader) : Opening → Reader → Opening → Reader → Prop :=
  fun o s o' s' => o = o' ∧ Twins W s s' ∧ (r.rest.getLast? = some .dangling → s.rest ≠ []) ∧
    ∃ taken, r.rest = taken ++ s.rest ∧ Opens o r.flags s.flags taken

/-- An opening without flags. -/
theorem Along.extended (h : Along W NoOpening r s s') {o : Opening}
    (ho : ∀ add remove, o = .plain add remove → add = []) : Extended W r o s o s' := by
  obtain ⟨taken, hrest, hquiet⟩ := h.passes.taken
  refine ⟨rfl, h.twins, h.passes.dangling, taken, hrest, Or.inl hquiet, ?_, ?_⟩
  · rw [h.passes.flags]
    exact Or.inl
  · intro add remove heq hadd
    rw [ho add remove heq] at hadd
    exact absurd hadd List.not_mem_nil

/-- An opening with flags, or flags for the whole pattern. -/
theorem flagOpening_level {t t' : Token} (h : Pulled W r t s t' s') (start start' : Nat) (atStart : Bool) :
    Follows Never (Extended W r) (flagOpening start atStart t) s (flagOpening start' atStart t') s' := by
  unfold flagOpening
  cases h with
  | @written c d ds _ _ _ hfront hc hd =>
    have hnone : Flag.ofLetter? c = none ∧ c ≠ '-' :=
      forall_spelling? (P := fun c => Flag.ofLetter? c = none ∧ c ≠ '-') (by decide)
        (Option.isSome_iff_exists.mpr ⟨_, hd⟩)
    refine .refused (e := ⟨.unknownExtension ("?" ++ (Token.char c).text), some (s.position - 2)⟩) ?_
    dsimp only
    rw [if_pos (by simp [hnone])]
    rfl
  | same t hfront h =>
    by_cases hbracket : t = .char '['
    · subst hbracket
      exact .refused rfl
    refine .check Iff.rfl ⟨_, rfl⟩ ?_
    have hs : Along W NoOpening r s s' := ⟨h.twins, h.passes.mono fun _ ht => ht ▸ hbracket⟩
    refine (flagGroup_level hfront (fun flag hflag => ?_) hs).bind ?_
    · cases t with
      | char c => exact ⟨c, rfl, hflag⟩
      | escape | dangling => cases hflag
    rintro group v _ v' ⟨rfl, hv, hpasses, hfrom⟩
    obtain ⟨taken, hrest, hquiet⟩ := hpasses.taken
    rcases group with _ | ⟨add, remove⟩
    · obtain ⟨add, hletters, hflags⟩ := hfrom
      refine .check Iff.rfl ⟨_, rfl⟩ (.pure ⟨rfl, hv, hpasses.dangling, taken, hrest, Or.inl hquiet, ?_, ?_⟩)
      · rw [hflags, List.mem_append]
        exact Or.imp_right (hletters.switches hrest)
      · rintro _ _ ⟨⟩
    · obtain ⟨hletters, hflags⟩ := hfrom
      refine .pure ⟨rfl, hv, hpasses.dangling, taken, hrest, Or.inl hquiet, ?_, ?_⟩
      · rw [hflags]
        exact Or.inl
      · rintro _ _ ⟨⟩
        exact hletters.switches hrest

/-- The opening of a named group, or a reference to one, behind the capital P. -/
def namedOpening : Read Opening := do
  if ← accept '<' then
    return .capture (some (← identifier '>'))
  if ← accept '=' then
    let name ← identifier ')'
    let index ← namedGroup name
    if ((← get).closedWidth? index).isNone then failBack (name.length + 1) .openGroup
    checkLookbehind index
    return .reference index
  match ← next with
  | none => failHere .unexpectedEnd
  | some t => failBack (t.width + 2) (.unknownExtension ("?P" ++ t.text))

theorem namedOpening_level (h : Along W NoOpening r s s') :
    Follows Never (Extended W r) namedOpening s namedOpening s' := by
  unfold namedOpening
  refine (accept_level h (by decide) (by rintro ⟨⟩)).bind ?_
  rintro opened t _ t' ⟨rfl, ht⟩
  refine .ite Iff.rfl (fun _ => ?_) fun _ => ?_
  · refine (identifier_quiet ht (by decide) (by decide)).bind ?_
    rintro name v _ v' ⟨rfl, hv⟩
    exact .pure (hv.extended (by rintro _ _ ⟨⟩))
  refine (accept_level ht (by decide) (by rintro ⟨⟩)).bind ?_
  rintro refers v _ v' ⟨rfl, hv⟩
  refine .ite Iff.rfl (fun _ => ?_) fun _ => ?_
  · refine (identifier_quiet hv (by decide) (by decide)).bind ?_
    rintro name w _ w' ⟨rfl, hw⟩
    refine (namedGroup_quiet hw name).bind ?_
    rintro index x _ x' ⟨rfl, hx⟩
    refine Follows.get_bind ?_
    dsimp only
    rw [hx.twins.closedWidth?]
    refine .check Iff.rfl ⟨_, rfl⟩ ((checkLookbehind_level hx index).bind fun hq => .pure ?_)
    exact hq.2.extended (by rintro _ _ ⟨⟩)
  · refine .refused_behind fun t _ _ => ?_
    cases t with
    | none => exact ⟨_, rfl⟩
    | some t => exact ⟨_, rfl⟩

/-- A comment, behind its sign. -/
theorem comment_level (hfront : r.rest = .char '#' :: s.rest) (h : Along W (· = .char '#') r s s')
    (start start' : Nat) :
    Follows Never (Extended W r) (do skipComment start; return .nothing) s
      (do skipComment start'; return .nothing) s' := by
  refine (skipComment_level h.twins start start').bind ?_
  rintro _ t _ t' ⟨ht, hpasses, body, hbody, hclosed⟩
  refine .pure ⟨rfl, ht, fun hlast => hpasses.dangling (h.passes.getLast? hlast),
    .char '#' :: (body ++ [.char ')']), ?_, Or.inr ⟨body, rfl, hclosed⟩, ?_, ?_⟩
  · rw [hfront, hbody, List.cons_append, List.append_assoc, List.singleton_append]
  · rw [hpasses.flags, h.passes.flags]
    exact Or.inl
  · rintro _ _ ⟨⟩

/-- **The opening of a group reads the same from both patterns**, if the number that a conditional asks for
does. -/
theorem extension_level (h : Twins W r r') (hasked : ∀ ts, r.rest = .char '(' :: ts → AsksPlainly W ts)
    (start start' : Nat) (atStart : Bool) :
    Follows Never (Extended W r) (extension start atStart) r (extension start' atStart) r' := by
  unfold extension
  refine (next_pulls h).bind ?_
  rintro t s t' s' hnext
  cases hnext with
  | none => exact .refused rfl
  | @some t t' _ _ hpulled =>
    refine hpulled.sign_or (k := 'P') rfl (fun hfront hs => ?_) fun hnamed hnamed' => ?_
    · exact namedOpening_level (hs.sign (by decide))
    refine hpulled.sign_or (k := ':') rfl (fun hfront hs => ?_) fun hcolon hcolon' => ?_
    · exact .pure ((hs.sign (by decide)).extended (by rintro _ _ ⟨⟩; rfl))
    refine hpulled.sign_or (k := '#') rfl (fun hfront hs => ?_) fun hcomment hcomment' => ?_
    · exact comment_level hfront hs start start'
    refine hpulled.sign_or (k := '=') rfl (fun hfront hs => ?_) fun hahead hahead' => ?_
    · exact .pure ((hs.sign (by decide)).extended (by rintro _ _ ⟨⟩))
    refine hpulled.sign_or (k := '!') rfl (fun hfront hs => ?_) fun hnot hnot' => ?_
    · exact .pure ((hs.sign (by decide)).extended (by rintro _ _ ⟨⟩))
    refine hpulled.sign_or (k := '<') rfl (fun hfront hs => ?_) fun hbehind hbehind' => ?_
    · have hs := hs.sign (by decide)
      refine (next_pulls hs.twins).bind ?_
      rintro u v u' v' hnext
      cases hnext with
      | none => exact .refused rfl
      | some hpulled =>
        refine hpulled.sign_or (k := '=') rfl (fun hfront hv => ?_) fun hahead hahead' => ?_
        · exact .pure ((hs.through hv (by rintro _ rfl ⟨⟩)).extended (by rintro _ _ ⟨⟩))
        refine hpulled.sign_or (k := '!') rfl (fun hfront hv => ?_) fun hnot hnot' => ?_
        · exact .pure ((hs.through hv (by rintro _ rfl ⟨⟩)).extended (by rintro _ _ ⟨⟩))
        simp only
        exact .refused rfl
    refine hpulled.sign_or (k := '(') rfl (fun hfront hs => ?_) fun hasks hasks' => ?_
    · refine (askedGroup_quiet (hs.sign (by decide)) (hasked _ hfront)).bind fun hq => .pure ?_
      obtain ⟨rfl, hv⟩ := hq
      exact hv.extended (by rintro _ _ ⟨⟩)
    refine hpulled.sign_or (k := '>') rfl (fun hfront hs => ?_) fun hatomic hatomic' => ?_
    · exact .pure ((hs.sign (by decide)).extended (by rintro _ _ ⟨⟩))
    simp only
    exact flagOpening_level hpulled start start' atStart

end WordLint.Regex
