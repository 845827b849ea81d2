import Mathlib
import WordLint.Proofs.Regex.FollowingItems
import WordLint.Proofs.Text.Characters

/-!
# Openings of groups that are alike

Names, flags and comments of two patterns that are alike follow each other, and so do the openings of
groups. Named groups are lost: their capital P is refused in the second pattern (`extension_follows`), so
every opening that both patterns have is `Unnamed`.
-/

namespace WordLint.Regex

variable {L : Char → Char → Prop} {refusable : Problem → Prop} {n : Nat} {r r' : Reader}

/-! ## Numbers of groups -/

/-- A character of a numeral is the same in both patterns. -/
theorem Folds.eq_of_numeral (hL : Folds L refusable) {c d : Char} (h : L c d)
    (hc : Text.isDecimal c = true ∨ Text.isNumeralBlank c = true ∨ c ∈ ['_', '-', '+']) : c = d := by
  rcases hc with hc | hc | hc
  · exact hL.numeral h (Or.inl hc)
  · exact hL.numeral h (Or.inr hc)
  · refine hL.sign h (Or.inl ?_)
    simp only [List.mem_cons, List.not_mem_nil, or_false] at hc
    rcases hc with rfl | rfl | rfl <;> decide

/-- Taking a token gives no names. -/
theorem next_names {t : Option Token} {s : Reader} (h : next.run r = .ok (t, s)) : s.names = r.names := by
  unfold next at h
  obtain ⟨_, _, hpeek, hbehind⟩ := bind_ok h
  obtain ⟨_, _, hskip, hlast⟩ := bind_ok hbehind
  cases hpeek
  cases hlast
  rw [skip_run] at hskip
  split at hskip
  · cases hskip
  · cases hskip
    rfl

/-- A name goes on with what has been taken, and taking it names no group. -/
theorem nameUntil_run {terminator : Char} {fuel : Nat} {taken : List Char} {name : String} {s : Reader}
    (h : (nameUntil terminator fuel taken).run r = .ok (name, s)) :
    taken <+: name.toList ∧ s.names = r.names := by
  induction fuel generalizing taken r with
  | zero => cases h
  | succ fuel ih =>
    obtain ⟨t, r₁, hnext, h⟩ := bind_ok h
    have hnames := next_names hnext
    cases t with
    | none =>
      dsimp only at h
      split at h <;> cases h
    | some t =>
      dsimp only at h
      split at h
      · split at h
        · cases h
        · cases h
          rw [String.toList_ofList]
          exact ⟨List.prefix_rfl, hnames⟩
      · obtain ⟨hfront, hmore⟩ := ih h
        exact ⟨(List.prefix_append taken t.chars).trans hfront, hmore.trans hnames⟩

/-- A token is the end of a name, or a part of it. -/
theorem nameUntil_next {t : Token} {r₁ : Reader} (h : next.run r = .ok (some t, r₁)) (terminator : Char)
    (fuel : Nat) (taken : List Char) : (nameUntil terminator (fuel + 1) taken).run r =
      (if t = .char terminator then
        if taken.isEmpty = true then failBack 1 .missingGroupName else return String.ofList taken
      else nameUntil terminator fuel (taken ++ t.chars) : Read String).run r₁ := by
  rw [nameUntil, run_bind_ok h]
  dsimp only
  split
  · split <;> rfl
  · rfl

/-- A name that is a numeral is taken in both patterns. -/
theorem nameUntil_same (hL : Folds L refusable) (h : Like L 0 r r') {terminator : Char}
    (hterminator : Sign terminator) {fuel : Nat} {taken : List Char} {name : String} {s : Reader}
    (hrun : (nameUntil terminator fuel taken).run r = .ok (name, s))
    (hname : ∀ c ∈ name.toList,
      Text.isDecimal c = true ∨ Text.isNumeralBlank c = true ∨ c ∈ ['_', '-', '+']) :
    (∃ s', (nameUntil terminator fuel taken).run r' = .ok (name, s') ∧ Like L 0 s s') ∨
      ∃ f, (nameUntil terminator fuel taken).run r' = .error f ∧ refusable f.problem := by
  induction fuel generalizing taken r r' with
  | zero => cases hrun
  | succ fuel ih =>
    obtain ⟨t, r₁, hnext, hrest⟩ := bind_ok hrun
    rcases next_follows hL h t r₁ hnext with ⟨t', r₁', hnext', htaken⟩ | ⟨e, hnext', he⟩
    · cases htaken with
      | none =>
        dsimp only at hrest
        split at hrest <;> cases hrest
      | @some t t' _ _ htaken =>
        rw [nameUntil_next hnext] at hrun
        rw [nameUntil_next hnext']
        by_cases hend : t = .char terminator
        · rw [if_pos hend] at hrun
          rw [if_pos ((htaken.sign hL hterminator).mp hend)]
          split at hrun
          · cases hrun
          · rename_i hempty
            rw [if_neg hempty]
            cases hrun
            cases htaken with
            | char _ hlike => exact Or.inl ⟨r₁', rfl, hlike⟩
            | escape => cases hend
        · rw [if_neg hend] at hrun
          rw [if_neg fun hend' => hend ((htaken.sign hL hterminator).mpr hend')]
          have hpart : ∀ c ∈ t.chars, c ∈ name.toList := fun c hc =>
            (nameUntil_run hrun).1.subset (List.mem_append_right _ hc)
          cases htaken with
          | char hcd hlike =>
            obtain rfl := hL.eq_of_numeral hcd (hname _ (hpart _ List.mem_cons_self))
            exact ih hlike hrun
          | escape c hlike =>
            have hescape := hname _ (hpart '\\' List.mem_cons_self)
            exact absurd hescape (by decide +kernel)
    · refine Or.inr ⟨e, ?_, he⟩
      rw [nameUntil, StateT.run_bind, hnext']
      rfl

/-- The group that a conditional asks for is the same in both patterns: without names it is a number. -/
theorem askedGroup_follows (hL : Folds L refusable) (h : Like L 0 r r') :
    Follows refusable (Ends L 0 Eq) askedGroup r askedGroup r' := by
  intro index u hrun
  unfold askedGroup at hrun ⊢
  obtain ⟨name, s, hname, hrest⟩ := bind_ok hrun
  have hnames : s.names = [] := (nameUntil_run hname).2.trans h.names.1
  dsimp only at hrest
  by_cases hidentifier : Text.isIdentifier name.toList = true
  · rw [if_pos hidentifier] at hrest
    obtain ⟨_, _, hnamed, _⟩ := bind_ok hrest
    unfold namedGroup at hnamed
    rw [StateT.run_bind, StateT.run_get, pure_bind, hnames] at hnamed
    cases hnamed
  · rw [if_neg hidentifier] at hrest
    cases hint : Text.readInt name.toList with
    | error e =>
      rw [hint] at hrest
      cases hrest
    | ok k =>
      have hgroup : (groupName ')').run r' = (nameUntil ')' (r.rest.length + 1) []).run r' := by
        unfold groupName
        rw [(h.rest.kinds hL).length_eq]
        rfl
      rcases nameUntil_same hL h (by decide) hname (Text.readInt_chars hint) with ⟨s', hname', hs⟩ | ⟨e, he, hrefusable⟩
      · rw [run_bind_ok (hgroup.trans hname'), if_neg hidentifier, hint]
        rw [hint] at hrest
        refine (?_ : Follows refusable (Ends L 0 Eq) _ s _ s') index u hrest
        refine .check Iff.rfl ⟨_, rfl⟩ (.check Iff.rfl ⟨_, rfl⟩ (.check Iff.rfl ⟨_, rfl⟩ ?_))
        refine (Follows.modify (Q := Ends L 0 Eq) ⟨rfl, ?_⟩).bind ?_
        · rw [hs.asked, hs.position]
          split
          · exact hs
          · exact ⟨hs.rest, rfl, hs.flags, hs.groups, hs.names, hs.lookbehindGroups, rfl⟩
        · rintro _ t _ t' ⟨-, ht⟩
          exact (checkLookbehind_follows ht _).bind fun hq => .pure ⟨rfl, hq.2⟩
      · refine Or.inr ⟨e, ?_, hrefusable⟩
        rw [StateT.run_bind, hgroup, he]
        rfl

/-! ## Flags -/

/-- The letter of a flag is the same in both patterns, but for the one that is always refused. -/
theorem flagOr_same (hL : Folds L refusable) {t t' : Token} (h : Taken L t r t' r') {absent : Problem}
    {flag : Flag} {s : Reader} (hrun : (flagOr absent t).run r = .ok (flag, s)) :
    flag = .locale ∨ (flagOr absent t').run r' = .ok (flag, r') ∧ Like L 0 s r' := by
  cases h with
  | escape c _ => cases hrun
  | @char c d _ _ hcd hlike =>
    unfold flagOr at hrun ⊢
    dsimp only at hrun ⊢
    cases hflag : Flag.ofLetter? c with
    | none =>
      rw [hflag] at hrun
      cases hrun
    | some f =>
      rw [hflag] at hrun
      cases hrun
      rcases hL.flag hcd hflag with hlocale | rfl
      · exact Or.inl hlocale
      · rw [hflag]
        exact Or.inr ⟨rfl, hlike⟩

/-- What goes on behind the letter of a flag, where that one flag is refused. -/
theorem flagOr_bind (hL : Folds L refusable) {α β : Type} {Q : α → Reader → β → Reader → Prop}
    {t t' : Token} (h : Taken L t r t' r') {absent : Problem} {f : Flag → Read α} {g : Flag → Read β}
    (hlocale : ∀ s, ∃ e, (f .locale).run s = .error e)
    (hf : ∀ flag {s s'}, Like L 0 s s' → Follows refusable Q (f flag) s (g flag) s') :
    Follows refusable Q (flagOr absent t >>= f) r (flagOr absent t' >>= g) r' := by
  intro a u hrun
  obtain ⟨flag, s, hflag, hrest⟩ := bind_ok hrun
  rcases flagOr_same hL h hflag with rfl | ⟨hflag', hlike⟩
  · obtain ⟨e, he⟩ := hlocale s
    rw [he] at hrest
    cases hrest
  · rw [run_bind_ok hflag']
    exact hf flag hlike a u hrest

theorem removedFlags_locale (fuel : Nat) (taken : List Flag) (s : Reader) :
    ∃ e, (removedFlags fuel taken .locale).run s = .error e := by
  cases fuel <;> exact ⟨_, rfl⟩

theorem addedFlags_locale (fuel : Nat) (taken : List Flag) (s : Reader) :
    ∃ e, (addedFlags fuel taken .locale).run s = .error e := by
  cases fuel <;> exact ⟨_, rfl⟩

theorem removedFlags_follows (hL : Folds L refusable) (h : Like L 0 r r') (fuel : Nat) (taken : List Flag)
    (flag : Flag) :
    Follows refusable (Ends L 0 Eq) (removedFlags fuel taken flag) r (removedFlags fuel taken flag) r' := by
  induction fuel generalizing taken flag r r' with
  | zero => exact .refused rfl
  | succ fuel ih =>
    rw [removedFlags]
    dsimp only
    refine .check Iff.rfl ⟨_, rfl⟩ ((next_follows hL h).bind ?_)
    rintro t s t' s' hnext
    cases hnext with
    | none => exact .refused rfl
    | @some t t' _ _ htaken =>
      refine htaken.sign_or hL (c := ':') (by decide) (fun hlike => .pure ⟨rfl, hlike⟩) fun hcolon hcolon' => ?_
      simp only
      exact flagOr_bind hL htaken (removedFlags_locale fuel _) fun flag _ _ hlike => ih hlike _ flag

theorem addedFlags_follows (hL : Folds L refusable) (h : Like L 0 r r') (fuel : Nat) (taken : List Flag)
    (flag : Flag) :
    Follows refusable (Ends L 0 Eq) (addedFlags fuel taken flag) r (addedFlags fuel taken flag) r' := by
  induction fuel generalizing taken flag r r' with
  | zero => exact .refused rfl
  | succ fuel ih =>
    rw [addedFlags]
    dsimp only
    refine .check Iff.rfl ⟨_, rfl⟩ (.check Iff.rfl ⟨_, rfl⟩ ((next_follows hL h).bind ?_))
    rintro t s t' s' hnext
    cases hnext with
    | none => exact .refused rfl
    | @some t t' _ _ htaken =>
      refine htaken.sign_or hL (c := ')') (by decide) (fun hlike => .pure ⟨rfl, hlike⟩) fun hclose hclose' => ?_
      refine htaken.sign_or hL (c := '-') (by decide) (fun hlike => .pure ⟨rfl, hlike⟩) fun hhyphen hhyphen' => ?_
      refine htaken.sign_or hL (c := ':') (by decide) (fun hlike => .pure ⟨rfl, hlike⟩) fun hcolon hcolon' => ?_
      simp only
      exact flagOr_bind hL htaken (addedFlags_locale fuel _) fun flag _ _ hlike => ih hlike _ flag

theorem flagGroup_locale (s : Reader) : ∃ e, (flagGroup (some .locale)).run s = .error e := by
  obtain ⟨e, he⟩ := addedFlags_locale (s.rest.length + 1) [] s
  refine ⟨e, ?_⟩
  unfold flagGroup
  rw [StateT.run_bind, StateT.run_get, pure_bind, StateT.run_bind, he]
  rfl

theorem flagGroup_follows (hL : Folds L refusable) (h : Like L 0 r r') (first : Option Flag) :
    Follows refusable (Ends L 0 Eq) (flagGroup first) r (flagGroup first) r' := by
  have hscoped : ∀ (add remove : List Flag) {s s' : Reader}, Like L 0 s s' → Follows refusable (Ends L 0 Eq)
      (do
        if remove.contains .template then failBack 1 .globalFlagOff
        if add.any remove.contains then failBack 1 .flagOnAndOff
        return FlagGroup.scoped add remove) s
      (do
        if remove.contains .template then failBack 1 .globalFlagOff
        if add.any remove.contains then failBack 1 .flagOnAndOff
        return FlagGroup.scoped add remove) s' := fun add remove _ _ hs =>
    .check Iff.rfl ⟨_, rfl⟩ (.check Iff.rfl ⟨_, rfl⟩ (.pure ⟨rfl, hs⟩))
  unfold flagGroup
  refine Follows.get_bind ?_
  rw [(h.rest.kinds hL).length_eq]
  cases first
  case' none => refine (Follows.pure (Q := Ends L 0 Eq) ⟨rfl, h⟩).bind ?_
  case' some flag => refine (addedFlags_follows hL h _ _ flag).bind ?_
  -- with flags to add or without, the list goes on alike
  all_goals
    rintro ⟨add, sign⟩ s _ s' ⟨rfl, hs⟩
    refine .ite Iff.rfl (fun _ => ?_) fun _ => .check Iff.rfl ⟨_, rfl⟩ (.ite Iff.rfl (fun _ => ?_) fun _ => ?_)
    · refine (Follows.modify (Q := Ends L 0 Eq) ⟨rfl, ?_⟩).bind fun hq => .pure ⟨rfl, hq.2⟩
      exact ⟨hs.rest, hs.position, congrArg (· ++ add) hs.flags, hs.groups, hs.names, hs.lookbehindGroups,
        hs.asked⟩
    · refine (next_follows hL hs).bind ?_
      rintro t s t' s' hnext
      cases hnext with
      | none => exact .refused rfl
      | some htaken =>
        refine flagOr_bind hL htaken (fun s => ?_) fun flag _ _ hlike => ?_
        · obtain ⟨e, he⟩ := removedFlags_locale (r'.rest.length + 1) [] s
          refine ⟨e, ?_⟩
          rw [StateT.run_bind, he]
          rfl
        · refine (removedFlags_follows hL hlike _ _ flag).bind ?_
          rintro remove _ _ _ ⟨rfl, hs⟩
          exact hscoped add remove hs
    · exact hscoped add [] hs

/-! ## Comments -/

/-- The tokens up to a sign are as many in both patterns. -/
theorem Alike.takeWhile (hL : Folds L refusable) {k : Char} (hk : Sign k) (hhex : isHex k = false)
    {ts us : List Token} (h : Alike L n ts us) :
    (ts.takeWhile (· ≠ .char k)).length = (us.takeWhile (· ≠ .char k)).length ∧
      Alike L 0 (ts.drop ((ts.takeWhile (· ≠ .char k)).length + 1))
        (us.drop ((ts.takeWhile (· ≠ .char k)).length + 1)) := by
  induction h with
  | nil => exact ⟨rfl, .nil⟩
  | @char n c d ts us _ h hrest ih =>
    by_cases hend : c = k
    · obtain rfl := hL.sign h (Or.inl (hend ▸ hk))
      simpa [List.takeWhile_cons, hend] using hrest
    · have hend' : ¬ d = k := fun hd => hend ((hL.sign h (Or.inr (hd ▸ hk))).trans hd)
      simpa [List.takeWhile_cons, hend, hend'] using ih
  | @digit n c d ts us hc hd _ _ ih =>
    have hend : ¬ c = k := fun heq => by rw [heq, hhex] at hc; cases hc
    have hend' : ¬ d = k := fun heq => by rw [heq, hhex] at hd; cases hd
    simpa [List.takeWhile_cons, hend, hend'] using ih
  | escape c _ ih => simpa [List.takeWhile_cons] using ih
  | dangling => exact ⟨rfl, .nil⟩

theorem skipLine_follows (hL : Folds L refusable) (h : Like L n r r') :
    Follows refusable (Ends L 0 Eq) skipLine r skipLine r' := by
  unfold skipLine
  obtain ⟨hlength, hdrop⟩ := h.rest.takeWhile hL (k := '\n') (by decide) (by decide)
  refine Follows.get_bind ?_
  dsimp only
  rw [← hlength]
  exact skip_follows hL h hdrop

theorem skipComment_follows (hL : Folds L refusable) (h : Like L n r r') (start : Nat) :
    Follows refusable (Ends L 0 Eq) (skipComment start) r (skipComment start) r' := by
  unfold skipComment
  obtain ⟨hlength, hdrop⟩ := h.rest.takeWhile hL (k := ')') (by decide) (by decide)
  refine Follows.get_bind ?_
  dsimp only
  rw [← hlength, (h.rest.kinds hL).length_eq]
  refine .ite Iff.rfl (fun _ => .refused_behind fun _ _ _ => ⟨_, rfl⟩) fun _ => skip_follows hL h hdrop

/-! ## The openings of groups -/

/-- An opening that neither names a group nor refers to a name. -/
def Opening.Unnamed : Opening → Prop
  | .capture (some _) | .reference _ => False
  | _ => True

/-- The opening that a list of flags stands for, from its first sign on. -/
def flagOpening (start : Nat) (atStart : Bool) (t : Token) : Read Opening := do
  let first := match t with
    | .char c => Flag.ofLetter? c
    | _ => none
  if first.isNone && t ≠ .char '-' then
    failBack (t.width + 1) (.unknownExtension ("?" ++ t.text))
  match ← flagGroup first with
  | .scoped add remove => return .plain add remove
  | .global =>
    if !atStart then failAt start .misplacedFlags
    return .nothing

/-- A list of flags starts with a flag or a hyphen, and both are the same in both patterns. -/
theorem flagOpening_follows (hL : Folds L refusable) {t t' : Token} (h : Taken L t r t' r') (start : Nat)
    (atStart : Bool) :
    Follows refusable (Ends L 0 fun o o' => o = o' ∧ o.Unnamed) (flagOpening start atStart t) r
      (flagOpening start atStart t') r' := by
  unfold flagOpening
  cases h with
  | escape c _ => exact .refused rfl
  | @char c d _ _ hcd hlike =>
    by_cases hrefused : ((Flag.ofLetter? c).isNone && Token.char c ≠ .char '-') = true
    · refine .refused (e := ⟨.unknownExtension ("?" ++ (Token.char c).text), some (r.position - 2)⟩) ?_
      dsimp only
      rw [if_pos hrefused]
      rfl
    have hsame : Flag.ofLetter? c = some .locale ∨ c = d := by
      cases hflag : Flag.ofLetter? c with
      | some flag => exact (hL.flag hcd hflag).imp_left (congrArg some)
      | none =>
        have hhyphen : c = '-' := by simpa [hflag] using hrefused
        exact Or.inr (hL.sign hcd (Or.inl (hhyphen ▸ by decide)))
    dsimp only
    rw [if_neg hrefused]
    rcases hsame with hlocale | rfl
    · obtain ⟨e, he⟩ := flagGroup_locale r
      refine .refused (e := e) ?_
      rw [hlocale, StateT.run_bind, he]
      rfl
    · rw [if_neg hrefused]
      refine (flagGroup_follows hL hlike _).bind ?_
      rintro group s _ s' ⟨rfl, hs⟩
      rcases group with _ | ⟨add, remove⟩
      · exact .check Iff.rfl ⟨_, rfl⟩ (.pure ⟨⟨rfl, trivial⟩, hs⟩)
      · exact .pure ⟨⟨rfl, trivial⟩, hs⟩

/-- The opening of a group is the same in both patterns. Where the first one goes on with a capital P, which
names belong to, the second one is refused. -/
theorem extension_follows (hL : Folds L refusable) (h : Like L 0 r r') (start : Nat) (atStart : Bool) :
    Follows refusable (Ends L 0 fun o o' => o = o' ∧ o.Unnamed) (extension start atStart) r
      (extension start atStart) r' := by
  unfold extension
  refine (next_follows hL h).bind ?_
  rintro t s t' s' hnext
  cases hnext with
  | none => exact .refused rfl
  | @some t t' s s' htaken =>
    by_cases hcapital : t = .char 'P'
    · subst hcapital
      cases htaken with
      | char hcd _ =>
        obtain ⟨rfl, hrefusable⟩ := hL.capital hcd
        exact .refuses (e := ⟨.unknownExtension "?p", some (s'.position - 2)⟩) rfl hrefusable
    have hcapital' : ¬ t' = .char 'P' := by
      rintro rfl
      cases htaken with
      | char hcd _ => exact hL.no_capital hcd
    -- every other sign opens a group of its own
    refine htaken.sign_or hL (c := ':') (by decide) (fun hlike => ?_) fun hcolon hcolon' => ?_
    · exact .pure ⟨⟨rfl, trivial⟩, hlike⟩
    refine htaken.sign_or hL (c := '#') (by decide) (fun hlike => ?_) fun hcomment hcomment' => ?_
    · exact (skipComment_follows hL hlike start).bind fun hq => .pure ⟨⟨rfl, trivial⟩, hq.2⟩
    refine htaken.sign_or hL (c := '=') (by decide) (fun hlike => ?_) fun hahead hahead' => ?_
    · exact .pure ⟨⟨rfl, trivial⟩, hlike⟩
    refine htaken.sign_or hL (c := '!') (by decide) (fun hlike => ?_) fun hnot hnot' => ?_
    · exact .pure ⟨⟨rfl, trivial⟩, hlike⟩
    refine htaken.sign_or hL (c := '<') (by decide) (fun hlike => ?_) fun hbehind hbehind' => ?_
    · refine (next_follows hL hlike).bind ?_
      rintro t s t' s' hnext
      cases hnext with
      | none => exact .refused rfl
      | some htaken =>
        refine htaken.sign_or hL (c := '=') (by decide) (fun hlike => ?_) fun hahead hahead' => ?_
        · exact .pure ⟨⟨rfl, trivial⟩, hlike⟩
        refine htaken.sign_or hL (c := '!') (by decide) (fun hlike => ?_) fun hnot hnot' => ?_
        · exact .pure ⟨⟨rfl, trivial⟩, hlike⟩
        simp only
        exact .refused rfl
    refine htaken.sign_or hL (c := '(') (by decide) (fun hlike => ?_) fun hasked hasked' => ?_
    · exact (askedGroup_follows hL hlike).bind fun hq => .pure ⟨⟨congrArg _ hq.1, trivial⟩, hq.2⟩
    refine htaken.sign_or hL (c := '>') (by decide) (fun hlike => ?_) fun hatomic hatomic' => ?_
    · exact .pure ⟨⟨rfl, trivial⟩, hlike⟩
    simp only
    exact flagOpening_follows hL htaken start atStart

end WordLint.Regex
