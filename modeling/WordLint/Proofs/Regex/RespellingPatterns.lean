import Mathlib
import WordLint.Proofs.Regex.Comments

/-!
# Whole patterns that are spelled alike

A pattern and one in which some of its characters are written as escapes are read as the same expression. Two
things must be left as they are (`Writable`): in a verbose pattern the blanks outside of sets, which are passed
over and which may end a comment, and blanks around the number that a conditional asks for.

What is read so far is kept along (`Stands`): a pattern is verbose only behind the letter of that flag, and the
brackets are balanced but for comments. So the same induction, with no character replaced at all, says of every
pattern that is read that its sets are closed (`compile_balanced`).
-/

namespace WordLint.Regex

variable {W : Char → Prop} {full : List Token} {known known' : Prop} {r r' s s' t t' : Reader} {α : Type}

/-- The characters that are replaced stand where they may be. -/
structure Writable (W : Char → Prop) (full : List Token) : Prop where
  line : ∀ u c v, full = u ++ .char c :: v → HasSwitch u → W c → isPatternBlank c = true → InSet u
  asked : ∀ u v, full = u ++ .char '(' :: .char '?' :: .char '(' :: v → AsksPlainly W v

/-- Two readers side by side in a pattern: the brackets that have been passed are balanced but for comments, and
the flag that makes a pattern verbose has been set by its letter, also when it is known to have been set. A
backslash at the end is still to come. -/
structure Stands (W : Char → Prop) (full : List Token) (known : Prop) (r r' : Reader) : Prop where
  twins : Twins W r r'
  dangling : full.getLast? = some .dangling → r.rest ≠ []
  passed : ∃ before, full = before ++ r.rest ∧ Balanced before ∧
    (known ∨ .verbose ∈ r.flags → HasSwitch before)

/-- A step that comes to the same in both patterns. -/
def Stood (W : Char → Prop) (full : List Token) (known : Prop) : α → Reader → α → Reader → Prop :=
  fun a s b s' => a = b ∧ Stands W full known s s'

theorem Stands.mono (h : Stands W full known r r') (hknown : known' → known ∨ .verbose ∈ r.flags) :
    Stands W full known' r r' := by
  obtain ⟨before, hfull, hbalanced, hswitch⟩ := h.passed
  exact ⟨h.twins, h.dangling, before, hfull, hbalanced, fun hor => hswitch (hor.elim hknown Or.inr)⟩

/-- What was known before is known of the end of a step. -/
theorem Stood.forget {a b : α} (h : Stood W full (known ∨ known') a s b s') : Stood W full known a s b s' :=
  ⟨h.1, h.2.mono fun hknown => Or.inl (Or.inl hknown)⟩

/-- The flag that makes a pattern verbose may be known from the flags. -/
theorem Stands.verbose (h : Stands W full known r r') : Stands W full (known ∨ .verbose ∈ r.flags) r r' :=
  h.mono id

/-- What is read next keeps the brackets balanced, and sets the flag that makes a pattern verbose only by its
letter. -/
theorem Stands.step {before : List Token} (taken : List Token) (h : Stands W full known r r') (hs : Twins W s s')
    (hdangling : r.rest.getLast? = some .dangling → s.rest ≠ []) (hfull : full = before ++ r.rest)
    (hrest : r.rest = taken ++ s.rest) (hbalanced : Balanced before → Balanced (before ++ taken))
    (hswitch : known' ∨ .verbose ∈ s.flags → known ∨ .verbose ∈ r.flags ∨ HasSwitch (before ++ taken)) :
    Stands W full known' s s' := by
  obtain ⟨before', hfull', hbefore, hverbose⟩ := h.passed
  obtain rfl : before' = before := List.append_cancel_right (hfull'.symm.trans hfull)
  refine ⟨hs, fun hlast => hdangling ?_, before' ++ taken, ?_, hbalanced hbefore, fun hor => ?_⟩
  · have hmore := h.dangling hlast
    rw [hfull, List.getLast?_append_of_ne_nil _ hmore] at hlast
    exact hlast
  · rw [hfull, hrest, List.append_assoc]
  · rcases hswitch hor with hknown | hflags | hnew
    · exact (hverbose (Or.inl hknown)).append taken
    · exact (hverbose (Or.inr hflags)).append taken
    · exact hnew

/-- What has no opening bracket. -/
theorem Stands.quiet (h : Stands W full known r r') (hs : Along W NoOpening r s s') :
    Stands W full known s s' := by
  obtain ⟨before, hfull, -⟩ := h.passed
  obtain ⟨taken, hrest, hquiet⟩ := hs.passes.taken
  refine h.step taken hs.twins hs.passes.dangling hfull hrest (fun hbefore => hbefore.quiet hquiet) fun hor => ?_
  exact hor.imp_right fun hflags => Or.inl (hs.passes.flags ▸ hflags)

/-- A token that opens no set. -/
theorem Stands.pulled {u : Token} (h : Stands W full known r r') (hpulled : Pulled W r u s u s')
    (hu : NoOpening u) : Stands W full known s s' :=
  h.quiet ⟨hpulled.along.twins, hpulled.passes.mono fun _ heq => heq ▸ hu⟩

/-- A set up to its closing bracket. -/
theorem Stands.closed (h : Stands W full known r r') (hs : Twins W s s') (hclosed : Closes r s) :
    Stands W full known s s' := by
  obtain ⟨before, hfull, -⟩ := h.passed
  obtain ⟨taken, hrest⟩ := hclosed.taken
  refine h.step (taken ++ [.char ']']) hs hclosed.passes.dangling hfull (by rw [hrest]; simp) ?_ fun hor => ?_
  · rw [← List.append_assoc]
    exact fun _ => .closed _
  · exact hor.imp_right fun hflags => Or.inl (hclosed.passes.flags ▸ hflags)

/-- No line feed that is replaced comes behind the sign of a comment: the first one would end the line. -/
theorem Stands.line_unbroken (h : Stands W full known r r') (hW : Writable W full) (hknown : known)
    {ts : List Token} (hfront : r.rest = .char '#' :: ts) (hc : W '\n') : .char '\n' ∉ ts := by
  intro hmem
  obtain ⟨body, v, rfl, hbody⟩ := List.eq_append_cons_of_mem hmem
  obtain ⟨before, hfull, hbalanced, hswitch⟩ := h.passed
  have hletter := hswitch (Or.inl hknown)
  have hline : full = (before ++ .char '#' :: body) ++ .char '\n' :: v := by rw [hfull, hfront]; simp
  refine (hbalanced.comment (fun body hbody => Or.inr ⟨before, body, rfl, hletter, hbody⟩) hbody).not_inSet ?_
  exact hW.line _ '\n' v hline (hletter.append _) hc (by decide)

/-- A line of a verbose pattern from its sign on. -/
theorem Stands.line (h : Stands W full known r r') (hknown : known) (hfront : r.rest = .char '#' :: s.rest)
    (hs : Along W (· = .char '#') r s s') (ht : Twins W t t') (hline : PassesText '\n' s t) :
    Stands W full known t t' := by
  obtain ⟨before, hfull, -, hverbose⟩ := h.passed
  have hswitch := hverbose (Or.inl hknown)
  obtain ⟨v, hrest, hv⟩ := hline.taken
  refine h.step (.char '#' :: s.rest.takeWhile (· ≠ .char '\n') ++ v) ht
    (fun hlast => hline.dangling (hs.passes.getLast? hlast)) hfull ?_ (fun hbefore => ?_) fun hor => ?_
  · rw [hfront, List.append_assoc, List.cons_append]
    exact congrArg _ hrest
  · rw [← List.append_assoc]
    refine (hbefore.comment (fun body hbody => Or.inr ⟨before, body, rfl, hswitch, hbody⟩) ?_).quiet ?_
    · exact fun hmem => by simpa using List.mem_takeWhile_imp hmem
    · rcases hv with rfl | ⟨rfl, -⟩
      · simp [NoOpening]
      · exact fun _ ht => nomatch ht
  · rw [hline.flags, hs.passes.flags] at hor
    exact hor.imp_right Or.inl

/-- An opening adds the flag that makes its body verbose. -/
def Opening.AddsVerbose (o : Opening) : Prop :=
  ∃ add remove, o = .plain add remove ∧ .verbose ∈ add

/-- The opening of a group, behind its question mark. -/
theorem Stands.extended {o o' : Opening} {u : List Token} (h : Stands W full known r r')
    (hgroup : full = u ++ .char '(' :: .char '?' :: r.rest) (hs : Extended W r o s o' s') :
    Stands W full (known ∨ o.AddsVerbose) s s' := by
  obtain ⟨-, htwins, hdangling, taken, hrest, hopens⟩ := hs
  have hfull : full = (u ++ [.char '(', .char '?']) ++ r.rest := by rw [hgroup]; simp
  have hswitches : Switches taken → HasSwitch (u ++ [.char '(', .char '?'] ++ taken) := fun hletters =>
    ⟨u, taken, by simp, hletters⟩
  refine h.step taken htwins hdangling hfull hrest (fun hbefore => ?_) ?_
  · rcases hopens.brackets with hquiet | ⟨body, rfl, hbody⟩
    · exact hbefore.quiet hquiet
    · rw [← List.cons_append, ← List.append_assoc]
      refine (hbefore.comment (fun body hbody => Or.inl ⟨u, body, by simp, hbody⟩) hbody).quiet ?_
      simp [NoOpening]
  · rintro ((hknown | ⟨add, remove, ho, hadd⟩) | hflags)
    · exact Or.inl hknown
    · exact Or.inr (Or.inr (hswitches (hopens.added add remove ho hadd)))
    · exact Or.inr ((hopens.flags hflags).imp_right hswitches)

/-! ## Opening and closing groups -/

theorem accept_stands (h : Stands W full known r r') {k : Char} (hk : spelling? k = none) (hk' : k ≠ '[') :
    Follows Never (Stood W full known) (accept k) r (accept k) r' := by
  refine (accept_level h.twins.along hk fun heq => hk' ?_).mono fun hq => ⟨hq.1, h.quiet hq.2⟩
  exact Token.char.inj heq

theorem closing_stands (h : Stands W full known r r') (start start' : Nat) :
    Follows Never (Stood W full known) (closing start) r (closing start') r' := by
  unfold closing
  refine (accept_stands h (by decide) (by decide)).bind ?_
  rintro closed s _ s' ⟨rfl, hs⟩
  exact .check Iff.rfl ⟨_, rfl⟩ (.pure ⟨rfl, hs⟩)

/-- What a reader knows of groups has no part in the places of the two readers. -/
theorem Stands.groups (h : Stands W full known r r') (hs : Twins W s s') (hrest : s.rest = r.rest)
    (hflags : s.flags = r.flags) : Stands W full known s s' := by
  obtain ⟨before, hfull, hbefore⟩ := h.passed
  exact ⟨hs, hrest ▸ h.dangling, before, hrest ▸ hfull, hflags ▸ hbefore⟩

theorem openGroup_stands (h : Stands W full known r r') :
    Follows Never (Stood W full known) openGroup r openGroup r' := by
  unfold openGroup
  refine Follows.get_bind ((Follows.modify (Q := Stood W full known) ⟨rfl, ?_⟩).bind fun hq => .pure ⟨?_, hq.2⟩)
  · exact h.groups ⟨h.twins.rest, h.twins.flags, congrArg (· ++ [none]) h.twins.groups, h.twins.names,
      h.twins.lookbehindGroups, h.twins.asked⟩ rfl rfl
  · rw [h.twins.groups]

theorem openNamed_stands (h : Stands W full known r r') (name : Option String) :
    Follows Never (Stood W full known) (openNamed name) r (openNamed name) r' := by
  cases name with
  | none => exact openGroup_stands h
  | some n =>
    unfold openNamed
    refine Follows.get_bind ?_
    rw [h.twins.names]
    cases r'.names.lookup n with
    | some earlier => exact .refused rfl
    | none =>
      refine (openGroup_stands h).bind ?_
      rintro index s _ s' ⟨rfl, hs⟩
      refine (Follows.modify (Q := Stood W full known) ⟨rfl, ?_⟩).bind fun hq => .pure ⟨rfl, hq.2⟩
      exact hs.groups ⟨hs.twins.rest, hs.twins.flags, hs.twins.groups, congrArg (· ++ [(n, index)]) hs.twins.names,
        hs.twins.lookbehindGroups, hs.twins.asked⟩ rfl rfl

theorem Twins.widths (h : Twins W r r') : r.widths = r'.widths := by
  funext index
  unfold Reader.widths
  rw [h.closedWidth?]

theorem closeGroup_stands (h : Stands W full known r r') (index : Nat) (body : Regex) :
    Follows Never (Stood W full known) (closeGroup index body) r (closeGroup index body) r' := by
  unfold closeGroup
  refine Follows.modify ⟨rfl, h.groups ⟨h.twins.rest, h.twins.flags, ?_, h.twins.names, h.twins.lookbehindGroups,
    h.twins.asked⟩ rfl rfl⟩
  dsimp only
  rw [h.twins.groups, h.twins.widths]

/-! ## Nesting -/

/-- What is nested is read alike, with some fuel for the first pattern. The second one may have more tokens. -/
structure StandsAt (W : Char → Prop) (full : List Token) (fuel : Nat) : Prop where
  alternatives : ∀ {fuel' : Nat}, fuel ≤ fuel' → ∀ (top verbose : Bool) (before : List Regex) {known : Prop}
    {r r' : Reader}, (verbose = true → known) → Stands W full known r r' →
      Follows Never (Stood W full known) (alternatives top verbose fuel before) r
        (alternatives top verbose fuel' before) r'
  sequence : ∀ {fuel' : Nat}, fuel ≤ fuel' → ∀ (first verbose : Bool) (items : List Regex) {known : Prop}
    {r r' : Reader}, (verbose = true → known) → Stands W full known r r' →
      Follows Never (Stood W full known) (sequence first verbose fuel items) r
        (sequence first verbose fuel' items) r'
  groupItem : ∀ {fuel' : Nat}, fuel ≤ fuel' → ∀ (atStart verbose : Bool) {known : Prop} {r r' : Reader},
    (verbose = true → known) → Stands W full known r r' → (∃ u, full = u ++ .char '(' :: r.rest) →
      Follows Never (Stood W full known) (groupItem atStart verbose fuel) r (groupItem atStart verbose fuel') r'

variable {fuel fuel' : Nat}

theorem alternatives_stand (hfuel : StandsAt W full fuel) (hle : fuel ≤ fuel') (top verbose : Bool)
    (before : List Regex) (hverbose : verbose = true → known) (h : Stands W full known r r') :
    Follows Never (Stood W full known) (alternatives top verbose (fuel + 1) before) r
      (alternatives top verbose (fuel' + 1) before) r' := by
  rw [alternatives, alternatives]
  refine (hfuel.sequence hle _ verbose [] hverbose h).bind ?_
  rintro item s _ s' ⟨rfl, hs⟩
  refine (accept_stands hs (by decide) (by decide)).bind ?_
  rintro bar t _ t' ⟨rfl, ht⟩
  refine .ite Iff.rfl (fun _ => Follows.get_bind ?_) fun _ => .pure ⟨rfl, ht⟩
  rw [← ht.twins.flags]
  -- the flags for the whole pattern may have been set in between
  refine (hfuel.alternatives hle top _ _ ?_ ht.verbose).mono Stood.forget
  cases top with
  | true => simpa using Or.inr
  | false => exact fun hv => Or.inl (hverbose hv)

/-- An escape that is new in the second pattern is an item, as the character is in the first one. -/
theorem written_stand (hW : Writable W full) (hfuel : StandsAt W full fuel) (hle : fuel ≤ fuel')
    (first verbose : Bool) (items : List Regex) (hverbose : verbose = true → known) (h : Stands W full known r r')
    {c d : Char} {ds : List Char} {ts us : List Token} (hts : r.rest = .char c :: ts)
    (hus : r'.rest = .escape d :: us) (hc : W c) (hd : spelling? c = some (d, ds)) :
    Follows Never (Stood W full known) (sequence first verbose (fuel + 1) items) r
      (sequence first verbose (fuel' + 1) items) r' := by
  have hsome := Option.isSome_iff_exists.mpr ⟨_, hd⟩
  have hplain : Plain c ∧ c ≠ '#' := forall_spelling? (P := fun c => Plain c ∧ c ≠ '#') (by decide) hsome
  have hkept : verbose = true → isPatternBlank c = false ∧ c ≠ '#' := by
    intro hv
    obtain ⟨before, hfull, hbalanced, hswitch⟩ := h.passed
    rw [hts] at hfull
    refine ⟨Bool.eq_false_iff.mpr fun hblank => hbalanced.not_inSet ?_, hplain.2⟩
    exact hW.line before c ts hfull (hswitch (Or.inl (hverbose hv))) hc hblank
  have hitem : Follows Never (Stood W full known) (do skip 1; sequence first verbose fuel (.char c.toNat :: items)) r
      (do skip 1; sequence first verbose fuel' ((← escape d) :: items)) r' := by
    refine (skip_pulls h.twins hts hus).bind ?_
    intro _ s _ s' hpulled
    cases hpulled with
    | @written _ _ ds vs _ _ hfront _ hd hrest hnext hs =>
      have hstands : Stands W full known s
          { s' with rest := vs, position := s'.position + widthOf (ds.map .char) } := by
        refine h.quiet ⟨hs.moved.twins, hs.passes.mono fun t ht heq => ?_⟩
        rw [ht, Token.char.injEq] at heq
        subst heq
        cases hd
      have hgoes := hfuel.sequence hle first verbose (.char c.toNat :: items) hverbose hstands
      unfold Follows at hgoes ⊢
      rw [run_bind_ok (escape_written hd hrest hnext).1]
      exact hgoes
  have hescape : (sequence first verbose (fuel' + 1) items).run r' =
      (do skip 1; sequence first verbose fuel' ((← escape d) :: items) : Read Regex).run r' := by
    rw [sequence]
    simp only [peek, StateT.run_bind, StateT.run_get, StateT.run_pure, pure_bind, hus, List.head?_cons]
  unfold Follows at hitem ⊢
  rw [sequence_step hplain.1 hkept fuel items hts, hescape]
  exact hitem

/-- A set goes up to its closing bracket. -/
theorem set_stand (hfuel : StandsAt W full fuel) (hle : fuel ≤ fuel') (first verbose : Bool) (items : List Regex)
    (hverbose : verbose = true → known) (h : Stands W full known r r')
    (hpulled : Pulled W r (.char '[') s (.char '[') s') :
    Follows Never (Stood W full known) (do sequence first verbose fuel ((← bracketed) :: items)) s
      (do sequence first verbose fuel' ((← bracketed) :: items)) s' := by
  refine (bracketed_level hpulled.along.twins).bind ?_
  rintro item t _ t' ⟨rfl, ht, hclosed⟩
  obtain ⟨taken, hrest⟩ := hclosed.taken
  have hpasses := (hpulled.passes.mono fun _ _ => trivial).trans hclosed.passes
  refine hfuel.sequence hle first verbose _ hverbose (h.closed ht ⟨hpasses, .char '[' :: taken, ?_⟩)
  rw [hpulled.front, hrest]
  rfl

/-- A group may turn out to be flags for the whole pattern. -/
theorem group_stand (hfuel : StandsAt W full fuel) (hle : fuel ≤ fuel') (first verbose : Bool) (items : List Regex)
    (hverbose : verbose = true → known) (h : Stands W full known r r')
    (hpulled : Pulled W r (.char '(') s (.char '(') s') :
    Follows Never (Stood W full known)
      (do
        match ← groupItem (first && items.isEmpty) verbose fuel with
        | some item => sequence first verbose fuel (item :: items)
        | none =>
          let r ← get
          let global := first && items.isEmpty && r.flags.contains .verbose
          sequence first (verbose || global) fuel items) s
      (do
        match ← groupItem (first && items.isEmpty) verbose fuel' with
        | some item => sequence first verbose fuel' (item :: items)
        | none =>
          let r ← get
          let global := first && items.isEmpty && r.flags.contains .verbose
          sequence first (verbose || global) fuel' items) s' := by
  obtain ⟨before, hfull, -⟩ := h.passed
  rw [hpulled.front] at hfull
  refine (hfuel.groupItem hle _ verbose hverbose (h.pulled hpulled (by rintro ⟨⟩)) ⟨before, hfull⟩).bind ?_
  rintro item t _ t' ⟨rfl, ht⟩
  cases item with
  | some item => exact hfuel.sequence hle first verbose _ hverbose ht
  | none =>
    refine Follows.get_bind ?_
    rw [← ht.twins.flags]
    refine (hfuel.sequence hle first _ items ?_ ht.verbose).mono Stood.forget
    simp only [Bool.or_eq_true, Bool.and_eq_true, List.contains_iff_mem]
    exact Or.imp hverbose And.right

theorem sequence_stand (hW : Writable W full) (hfuel : StandsAt W full fuel) (hle : fuel ≤ fuel')
    (first verbose : Bool) (items : List Regex) (hverbose : verbose = true → known) (h : Stands W full known r r') :
    Follows Never (Stood W full known) (sequence first verbose (fuel + 1) items) r
      (sequence first verbose (fuel' + 1) items) r' := by
  have hspelled := h.twins.rest
  generalize hts : r.rest = ts at hspelled
  generalize hus : r'.rest = us at hspelled
  cases hspelled with
  | written hc hd _ => exact written_stand hW hfuel hle first verbose items hverbose h hts hus hc hd
  | nil =>
    rw [sequence, sequence]
    simp only [peek, bind_assoc, pure_bind]
    refine Follows.get_bind ?_
    rw [hts, hus]
    exact .pure ⟨rfl, h⟩
  | @same u ts us _ =>
    rw [sequence, sequence]
    simp only [peek, bind_assoc, pure_bind]
    refine Follows.get_bind ?_
    rw [hts, hus]
    dsimp only [List.head?_cons]
    split
    · rename_i heq
      cases heq
    · exact .pure ⟨rfl, h⟩
    · exact .pure ⟨rfl, h⟩
    · rename_i t _ _ heq
      cases heq
      refine (skip_pulls h.twins hts hus).bind ?_
      intro _ s _ s' hpulled
      have hstands : NoOpening u → Stands W full known s s' := h.pulled hpulled
      have hmore := fun (items : List Regex) {t t' : Reader} (ht : Stands W full known t t') =>
        hfuel.sequence hle first verbose items hverbose ht
      cases u with
      | dangling => exact .refused rfl
      | escape c =>
        refine (escape_quiet hpulled.along.twins.along c).bind ?_
        rintro item t _ t' ⟨rfl, ht⟩
        exact hmore _ ((hstands (by rintro ⟨⟩)).quiet ht)
      | char c =>
        refine .ite Iff.rfl (fun hblank => hmore _ (hstands ?_)) fun _ =>
          .ite Iff.rfl (fun hcomment => ?_) fun _ => ?_
        · rintro ⟨⟩
          simp [isPatternBlank, Text.isAsciiBlank] at hblank
        · obtain ⟨hv, rfl⟩ : verbose = true ∧ c = '#' := by simpa using hcomment
          have hunbroken := h.line_unbroken hW (hverbose hv) hpulled.front
          exact (skipLine_level hpulled.along.twins hunbroken).bind fun hq =>
            hmore _ (h.line (hverbose hv) hpulled.front hpulled.along hq.1 hq.2)
        have hrepetition : NoOpening (.char c) → Follows Never (Stood W full known)
            (do sequence first verbose fuel (← repetition c items)) s
            (do sequence first verbose fuel' (← repetition c items)) s' := by
          intro hc
          refine (repetition_quiet hpulled.along.twins.along c items).bind ?_
          rintro more t _ t' ⟨rfl, ht⟩
          exact hmore _ ((hstands hc).quiet ht)
        split
        · exact set_stand hfuel hle first verbose items hverbose h hpulled
        · exact hmore _ (hstands (by rintro ⟨⟩))
        · exact hmore _ (hstands (by rintro ⟨⟩))
        · exact hmore _ (hstands (by rintro ⟨⟩))
        · exact hrepetition (by rintro ⟨⟩)
        · exact hrepetition (by rintro ⟨⟩)
        · exact hrepetition (by rintro ⟨⟩)
        · exact hrepetition (by rintro ⟨⟩)
        · exact group_stand hfuel hle first verbose items hverbose h hpulled
        · rename_i hopen _ _ _ _ _ _ _ _
          exact hmore _ (hstands fun heq => hopen (Token.char.inj heq))

/-- A body with its closing parenthesis, and what is made of it. -/
theorem body_stand (hfuel : StandsAt W full fuel) (hle : fuel ≤ fuel') (verbose : Bool) (start start' : Nat)
    (f : Regex → Regex) (hverbose : verbose = true → known) (h : Stands W full known r r') :
    Follows Never (Stood W full known)
      (do
        let body ← alternatives false verbose fuel []
        closing start
        return some (f body)) r
      (do
        let body ← alternatives false verbose fuel' []
        closing start'
        return some (f body)) r' := by
  refine (hfuel.alternatives hle false verbose [] hverbose h).bind ?_
  rintro body s _ s' ⟨rfl, hs⟩
  exact (closing_stands hs start start').bind fun hq => .pure ⟨rfl, hq.2⟩

/-- A character that has been accepted stood in front. -/
theorem rest_of_accept {k : Char} (h : (accept k).run r = .ok (true, s)) : r.rest = .char k :: s.rest := by
  unfold accept peek at h
  simp only [bind_assoc, pure_bind] at h
  obtain ⟨r₁, _, hget, h⟩ := bind_ok h
  cases hget
  split at h
  · rename_i hfront
    obtain ⟨ts, hts⟩ := List.head?_eq_some_iff.mp hfront
    obtain ⟨_, s₁, hskip, hend⟩ := bind_ok h
    cases hend
    rw [rest_of_skip hskip, hts]
    rfl
  · cases h

/-- What is behind the parenthesis and the question mark of a group. -/
theorem extension_stands (hW : Writable W full) (start start' : Nat) (atStart : Bool)
    (h : Stands W full known r r') {u : List Token} (hgroup : full = u ++ .char '(' :: .char '?' :: r.rest) :
    Follows Never (fun o s o' s' => o = o' ∧ Stands W full (known ∨ o.AddsVerbose) s s')
      (extension start atStart) r (extension start' atStart) r' := by
  refine (extension_level h.twins (fun ts hts => hW.asked u ts ?_) start start' atStart).mono fun hq =>
    ⟨hq.1, h.extended hgroup hq⟩
  rw [hgroup, hts]

theorem groupItem_stand (hW : Writable W full) (hfuel : StandsAt W full fuel) (hle : fuel ≤ fuel')
    (atStart verbose : Bool) (hverbose : verbose = true → known) (h : Stands W full known r r')
    (hopen : ∃ u, full = u ++ .char '(' :: r.rest) :
    Follows Never (Stood W full known) (groupItem atStart verbose (fuel + 1)) r
      (groupItem atStart verbose (fuel' + 1)) r' := by
  obtain ⟨u, hfull⟩ := hopen
  rw [groupItem, groupItem]
  refine Follows.get_bind ?_
  dsimp only
  refine (accept_stands h (k := '?') (by decide) (by decide)).ran.bind ?_
  rintro marked s _ s' ⟨hrun, rfl, hs⟩
  refine Follows.ite_bind (Q := fun o s o' s' => o = o' ∧ Stands W full (known ∨ o.AddsVerbose) s s')
    (fun hmarked => ?_) (fun _ => .pure ⟨rfl, hs.mono ?_⟩) ?_
  · subst hmarked
    rw [rest_of_accept hrun] at hfull
    exact extension_stands hW _ _ atStart hs hfull
  · rintro (hknown | ⟨_, _, ⟨⟩, -⟩)
    exact Or.inl hknown
  rintro opening t _ t' ⟨rfl, ht'⟩
  have ht : Stands W full known t t' := ht'.mono fun hknown => Or.inl (Or.inl hknown)
  cases opening with
  | nothing => exact .pure ⟨rfl, ht⟩
  | reference index => exact .pure ⟨rfl, ht⟩
  | atomic => exact body_stand hfuel hle _ _ _ .atomic hverbose ht
  | ahead negated => exact body_stand hfuel hle _ _ _ (.look .ahead negated) hverbose ht
  | plain add remove =>
    refine (body_stand hfuel hle _ _ _ (.scoped add remove) ?_ ht').mono Stood.forget
    unfold verboseIn
    simp only [Bool.and_eq_true, Bool.or_eq_true, List.contains_iff_mem]
    exact fun hv => hv.1.imp hverbose fun hadd => ⟨add, remove, rfl, hadd⟩
  | capture name =>
    refine (openNamed_stands ht name).bind ?_
    rintro index v _ v' ⟨rfl, hv⟩
    refine (hfuel.alternatives hle false verbose [] hverbose hv).bind ?_
    rintro body w _ w' ⟨rfl, hw⟩
    refine (closing_stands hw _ _).bind ?_
    rintro _ x _ x' ⟨-, hx⟩
    exact (closeGroup_stands hx index body).bind fun hq => .pure ⟨rfl, hq.2⟩
  | behind negated =>
    refine Follows.get_bind ?_
    refine (Follows.modify (Q := Stood W full known) ⟨rfl, ht.groups ⟨ht.twins.rest, ht.twins.flags, ht.twins.groups,
      ht.twins.names, ?_, ht.twins.asked⟩ rfl rfl⟩).bind ?_
    · dsimp only
      rw [ht.twins.lookbehindGroups, ht.twins.groups]
    rintro _ v _ v' ⟨-, hv⟩
    refine (hfuel.alternatives hle false verbose [] hverbose hv).bind ?_
    rintro body w _ w' ⟨rfl, hw⟩
    refine (Follows.modify (Q := Stood W full known) ⟨rfl, hw.groups ⟨hw.twins.rest, hw.twins.flags, hw.twins.groups,
      hw.twins.names, ht.twins.lookbehindGroups, hw.twins.asked⟩ rfl rfl⟩).bind ?_
    rintro _ x _ x' ⟨-, hx⟩
    refine (closing_stands hx _ _).bind ?_
    rintro _ y _ y' ⟨-, hy⟩
    refine Follows.get_bind ?_
    rw [hy.twins.widths]
    exact .pure ⟨rfl, hy⟩
  | conditional index =>
    refine (hfuel.sequence hle false verbose [] hverbose ht).bind ?_
    rintro yes v _ v' ⟨rfl, hv⟩
    refine (accept_stands hv (by decide) (by decide)).bind ?_
    rintro bar w _ w' ⟨rfl, hw⟩
    refine .ite Iff.rfl (fun _ => ?_) fun _ => (closing_stands hw _ _).bind fun hq => .pure ⟨rfl, hq.2⟩
    refine (hfuel.sequence hle false verbose [] hverbose hw).bind ?_
    rintro no x _ x' ⟨rfl, hx⟩
    simp only [peek, bind_assoc, pure_bind]
    refine Follows.get_bind (.check (hx.twins.rest.head?_char (by decide)) ⟨_, rfl⟩ ?_)
    exact (closing_stands hx _ _).bind fun hq => .pure ⟨rfl, hq.2⟩

/-- What is nested is read alike with any fuel. -/
theorem standsAt (hW : Writable W full) (fuel : Nat) : StandsAt W full fuel := by
  induction fuel with
  | zero => exact ⟨fun _ _ _ _ _ _ _ _ _ => .refused rfl, fun _ _ _ _ _ _ _ _ _ => .refused rfl,
      fun _ _ _ _ _ _ _ _ _ => .refused rfl⟩
  | succ fuel ih =>
    constructor
    · intro fuel' hle top verbose before known r r' hverbose h
      obtain ⟨fuel', rfl⟩ : ∃ n, fuel' = n + 1 := ⟨fuel' - 1, by omega⟩
      exact alternatives_stand ih (Nat.le_of_succ_le_succ hle) top verbose before hverbose h
    · intro fuel' hle first verbose items known r r' hverbose h
      obtain ⟨fuel', rfl⟩ : ∃ n, fuel' = n + 1 := ⟨fuel' - 1, by omega⟩
      exact sequence_stand hW ih (Nat.le_of_succ_le_succ hle) first verbose items hverbose h
    · intro fuel' hle atStart verbose known r r' hverbose h hopen
      obtain ⟨fuel', rfl⟩ : ∃ n, fuel' = n + 1 := ⟨fuel' - 1, by omega⟩
      exact groupItem_stand hW ih (Nat.le_of_succ_le_succ hle) atStart verbose hverbose h hopen

/-! ## Whole patterns -/

/-- Whether a group is asked for that there is not does not depend on where. -/
theorem find?_isNone_of_map_fst {as bs : List (Nat × Nat)} (h : as.map (·.1) = bs.map (·.1)) (n : Nat)
    (hnone : as.find? (fun a => n ≤ a.1) = none) : bs.find? (fun a => n ≤ a.1) = none := by
  rw [List.find?_eq_none] at hnone ⊢
  intro b hb
  have hmem := List.mem_map_of_mem (f := (·.1)) hb
  rw [← h] at hmem
  obtain ⟨a, ha, hab⟩ := List.mem_map.mp hmem
  rw [← hab]
  exact hnone a ha

theorem stands_start {us : List Token} (h : Spelled W full us) :
    Stands W full False (.ofTokens full) (.ofTokens us) := by
  refine ⟨⟨h, rfl, rfl, rfl, rfl, rfl⟩, ?_, [], rfl, .nil, ?_⟩
  · rintro hlast (rfl : full = [])
    cases hlast
  · rintro (hnone | hflags)
    · exact hnone.elim
    · cases hflags

theorem wholePattern_stands (hW : Writable W full) {us : List Token} (h : Spelled W full us) (hle : fuel ≤ fuel') :
    Follows Never (fun e s e' s' => e = e' ∧ Stands W full False s s' ∧ s.rest = []) (wholePattern fuel)
      (.ofTokens full) (wholePattern fuel') (.ofTokens us) := by
  have hstart := stands_start h
  have hskip : Quiet W (.ofTokens full) (skip 0) (.ofTokens full) (skip 0) (.ofTokens us) :=
    skip_level hstart.twins.along h fun _ ht => nomatch ht
  unfold wholePattern
  refine hskip.bind ?_
  rintro _ r _ r' ⟨-, hr⟩
  refine ((standsAt hW fuel).alternatives hle true false [] (fun hverbose => nomatch hverbose)
    (hstart.quiet hr)).bind ?_
  rintro e s _ s' ⟨rfl, hs⟩
  have hempty : s.rest.isEmpty = s'.rest.isEmpty :=
    Bool.eq_iff_iff.mpr (by rw [List.isEmpty_iff, List.isEmpty_iff, hs.twins.rest.eq_nil_iff])
  refine Follows.get_bind ?_
  dsimp only
  rw [← hs.twins.flags, ← hs.twins.groups, ← hempty]
  refine .check Iff.rfl ⟨_, rfl⟩ (.ite Iff.rfl (fun _ => .refused rfl) fun hend => ?_)
  cases hasked : s.asked.find? (fun a => s.groups.length ≤ a.1) with
  | some a => exact .refused rfl
  | none =>
    rw [find?_isNone_of_map_fst hs.twins.asked _ hasked]
    exact .pure ⟨rfl, hs, by simpa using hend⟩

/-- **A pattern in which characters are written as escapes** is read as the same expression under the same
flags. -/
theorem compile_spelled {p q : String} {e : Compiled} (hp : compile p = .ok e)
    (h : Spelled W (tokens p.toList) (tokens q.toList)) (hW : Writable W (tokens p.toList)) : compile q = .ok e := by
  have hle : 4 * (tokens p.toList).length + 4 ≤ 4 * (tokens q.toList).length + 4 := by
    have hlength := h.length_le
    omega
  unfold compile at hp ⊢
  dsimp only at hp ⊢
  split at hp
  · cases hp
  · rename_i regex s hrun
    rcases wholePattern_stands hW h hle regex s hrun with ⟨_, s', hrun', rfl, hs, -⟩ | ⟨_, _, hnever⟩
    · rw [hrun']
      dsimp only
      rw [← hs.twins.flags]
      split at hp
      · cases hp
      · cases hp
        rfl
    · exact hnever.elim

/-- **The sets of a pattern that is read are closed**: by its brackets it ends inside a set only if the last one
is an opening bracket in a comment. It does not end in a backslash either. -/
theorem compile_balanced {p : String} {e : Compiled} (hp : compile p = .ok e) :
    Balanced (tokens p.toList) ∧ (tokens p.toList).getLast? ≠ some .dangling := by
  have hwritable : Writable (fun _ => False) (tokens p.toList) :=
    ⟨fun _ _ _ _ _ hnone => hnone.elim, fun _ _ _ _ hnone => hnone.elim⟩
  unfold compile at hp
  dsimp only at hp
  split at hp
  · cases hp
  · rename_i regex s hrun
    rcases wholePattern_stands hwritable (.refl _) (Nat.le_refl _) regex s hrun with
      ⟨_, _, _, _, hs, hend⟩ | ⟨_, _, hnever⟩
    · obtain ⟨before, hfull, hbalanced, -⟩ := hs.passed
      rw [hend, List.append_nil] at hfull
      exact ⟨hfull ▸ hbalanced, fun hlast => hs.dangling hlast hend⟩
    · exact hnever.elim

end WordLint.Regex
