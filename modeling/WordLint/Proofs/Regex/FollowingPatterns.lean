import Mathlib
import WordLint.Proofs.Regex.FollowingGroups

/-!
# Whole patterns that are alike

Sequences, alternatives and groups nest, so they follow each other together: `FollowsAt` says so for one
fuel, and one level of nesting carries it on to the next (`followsAt`).

**The law** (`compile_follows`): when a pattern is read, one that is alike is read as an expression of the
same shape, or it is refused for a reason that may occur.
-/

namespace WordLint.Regex

variable {L : Char → Char → Prop} {refusable : Problem → Prop} {n : Nat} {r r' : Reader}

/-! ## Opening and closing groups -/

theorem closing_follows (hL : Folds L refusable) (h : Like L 0 r r') (start : Nat) :
    Follows refusable (Ends L 0 Eq) (closing start) r (closing start) r' := by
  unfold closing
  refine (accept_follows hL h (by decide)).bind ?_
  rintro closed s closed' s' ⟨rfl, hs⟩
  exact .check Iff.rfl ⟨_, rfl⟩ (.pure ⟨rfl, hs⟩)

theorem openGroup_follows (h : Like L 0 r r') :
    Follows refusable (Ends L 0 Eq) openGroup r openGroup r' := by
  unfold openGroup
  refine Follows.get_bind ((Follows.modify (Q := Ends L 0 Eq) ⟨rfl, ?_⟩).bind fun hq => .pure ⟨?_, hq.2⟩)
  · exact ⟨h.rest, h.position, h.flags, congrArg (· ++ [none]) h.groups, h.names, h.lookbehindGroups, h.asked⟩
  · rw [h.groups]

theorem Like.widths (h : Like L n r r') : r.widths = r'.widths := by
  funext index
  unfold Reader.widths
  rw [h.closedWidth?]

theorem closeGroup_follows (h : Like L 0 r r') (index : Nat) {body body' : Regex} (hbody : SameShape L body body') :
    Follows refusable (Ends L 0 Eq) (closeGroup index body) r (closeGroup index body') r' := by
  unfold closeGroup
  refine Follows.modify ⟨rfl, h.rest, h.position, h.flags, ?_, h.names, h.lookbehindGroups, h.asked⟩
  dsimp only
  rw [h.groups, h.widths, hbody.width]

/-! ## Nesting -/

/-- What is nested follows, with some fuel. -/
structure FollowsAt (L : Char → Char → Prop) (refusable : Problem → Prop) (fuel : Nat) : Prop where
  alternatives : ∀ (top verbose : Bool) {before before' : List Regex} {r r' : Reader},
    List.Forall₂ (SameShape L) before before' → Like L 0 r r' →
      Follows refusable (Ends L 0 (SameShape L)) (alternatives top verbose fuel before) r
        (alternatives top verbose fuel before') r'
  sequence : ∀ (first verbose : Bool) {items items' : List Regex} {r r' : Reader},
    List.Forall₂ (SameShape L) items items' → Like L 0 r r' →
      Follows refusable (Ends L 0 (SameShape L)) (sequence first verbose fuel items) r
        (sequence first verbose fuel items') r'
  groupItem : ∀ (atStart verbose : Bool) {r r' : Reader}, Like L 0 r r' →
    Follows refusable (Ends L 0 (Option.Rel (SameShape L))) (groupItem atStart verbose fuel) r
      (groupItem atStart verbose fuel) r'

theorem isEmpty_eq {α β : Type} {R : α → β → Prop} {as : List α} {bs : List β} (h : List.Forall₂ R as bs) :
    as.isEmpty = bs.isEmpty := by
  cases h <;> rfl

theorem alternatives_follows (hL : Folds L refusable) {fuel : Nat} (hfuel : FollowsAt L refusable fuel)
    (top verbose : Bool) {before before' : List Regex} (hbefore : List.Forall₂ (SameShape L) before before')
    (h : Like L 0 r r') :
    Follows refusable (Ends L 0 (SameShape L)) (alternatives top verbose (fuel + 1) before) r
      (alternatives top verbose (fuel + 1) before') r' := by
  rw [alternatives, alternatives, isEmpty_eq hbefore]
  refine (hfuel.sequence _ verbose .nil h).bind ?_
  rintro item s item' s' ⟨hitem, hs⟩
  have hitems := List.rel_append hbefore (.cons hitem .nil)
  refine (accept_follows hL hs (by decide)).bind ?_
  rintro bar s bar' s' ⟨rfl, hs⟩
  refine .ite Iff.rfl (fun _ => Follows.get_bind ?_) fun _ => .pure ⟨.altAll hitems, hs⟩
  rw [hs.flags]
  exact hfuel.alternatives top _ hitems hs

/-- Every other character than a sign stands for itself. -/
theorem plain_of_not_sign {c : Char} (h : ¬ Sign c) : Plain c ∧ isPatternBlank c = false ∧ c ≠ '#' := by
  refine ⟨plain_of_alphanum_or_above ?_, ?_, fun heq => h (heq ▸ by decide)⟩
  · by_cases hascii : c.toNat < 0x80
    · have halpha : c.isAlpha = true := Bool.not_eq_false _ ▸ fun hother => h ⟨hascii, hother⟩
      exact Or.inl (by rw [Char.isAlphanum, halpha]; rfl)
    · exact Or.inr (Nat.le_of_not_lt hascii)
  · by_contra hblank
    rw [Bool.not_eq_false] at hblank
    have hascii : c.toNat < 128 := by
      unfold isPatternBlank Text.isAsciiBlank at hblank
      simp only [Bool.or_eq_true, beq_iff_eq, Bool.and_eq_true, decide_eq_true_eq] at hblank
      rcases hblank with rfl | hblank
      · decide
      · omega
    exact h (Text.forall_ascii (P := fun c => isPatternBlank c = true → Sign c) (by decide +kernel) hascii hblank)

/-- Two letters are items. -/
theorem letters_follow (hL : Folds L refusable) {fuel : Nat} (hfuel : FollowsAt L refusable fuel)
    (first verbose : Bool) {items items' : List Regex} (hitems : List.Forall₂ (SameShape L) items items')
    (h : Like L 0 r r') {c d : Char} {ts us : List Token} (hts : r.rest = .char c :: ts)
    (hus : r'.rest = .char d :: us) (hcd : L c d) (hother : c ≠ d) :
    Follows refusable (Ends L 0 (SameShape L)) (sequence first verbose (fuel + 1) items) r
      (sequence first verbose (fuel + 1) items') r' := by
  obtain ⟨hc, hkept⟩ := plain_of_not_sign fun hsign => hother (hL.sign hcd (Or.inl hsign))
  obtain ⟨hd, hkept'⟩ := plain_of_not_sign fun hsign => hother (hL.sign hcd (Or.inr hsign))
  have hitem : Follows refusable (Ends L 0 (SameShape L))
      (do skip 1; sequence first verbose fuel (.char c.toNat :: items)) r
      (do skip 1; sequence first verbose fuel (.char d.toNat :: items')) r' :=
    (skip_follows hL h (drop_one h (by rw [hts]; rfl))).bind fun hq =>
      hfuel.sequence first verbose (.cons (.char (.literal hcd)) hitems) hq.2
  unfold Follows at hitem ⊢
  rw [sequence_step hc (fun _ => hkept) fuel items hts, sequence_step hd (fun _ => hkept') fuel items' hus]
  exact hitem

theorem sequence_follows (hL : Folds L refusable) {fuel : Nat} (hfuel : FollowsAt L refusable fuel)
    (first verbose : Bool) {items items' : List Regex} (hitems : List.Forall₂ (SameShape L) items items')
    (h : Like L 0 r r') :
    Follows refusable (Ends L 0 (SameShape L)) (sequence first verbose (fuel + 1) items) r
      (sequence first verbose (fuel + 1) items') r' := by
  rcases letters_or_head? h with ⟨c, d, ts, us, hts, hus, hcd, hother⟩ | hhead
  · exact letters_follow hL hfuel first verbose hitems h hts hus hcd hother
  have hend : Follows refusable (Ends L 0 (SameShape L)) (pure (catAll items.reverse)) r
      (pure (catAll items'.reverse)) r' := .pure ⟨.catAll (List.forall₂_reverse_iff.mpr hitems), h⟩
  rw [sequence, sequence]
  simp only [peek, bind_assoc, pure_bind]
  refine Follows.get_bind ?_
  rw [← hhead]
  split
  · exact hend
  · exact hend
  · exact hend
  · rename_i t _ _ ht
    cases t with
    | dangling => exact .refused_behind fun _ _ _ => ⟨_, rfl⟩
    | escape c =>
      refine (skip_follows hL h (drop_escape h ht)).bind ?_
      rintro _ s _ s' ⟨-, hs⟩
      exact (escape_follows hL hs).bind fun hq => hfuel.sequence first verbose (.cons hq.1 hitems) hq.2
    | char c =>
      refine (skip_follows hL h (drop_one h ht)).bind ?_
      rintro _ s _ s' ⟨-, hs⟩
      refine .ite Iff.rfl (fun _ => hfuel.sequence first verbose hitems hs) fun _ =>
        .ite Iff.rfl (fun _ => ?_) fun _ => ?_
      · exact (skipLine_follows hL hs).bind fun hq => hfuel.sequence first verbose hitems hq.2
      have hrepetition := (repetition_follows hL hs c hitems).bind fun hq =>
        hfuel.sequence first verbose hq.1 hq.2
      split
      · exact (bracketed_follows hL hs).bind fun hq => hfuel.sequence first verbose (.cons hq.1 hitems) hq.2
      · exact hfuel.sequence first verbose (.cons .any hitems) hs
      · exact hfuel.sequence first verbose (.cons (.anchor _) hitems) hs
      · exact hfuel.sequence first verbose (.cons (.anchor _) hitems) hs
      · exact hrepetition
      · exact hrepetition
      · exact hrepetition
      · exact hrepetition
      · rw [isEmpty_eq hitems]
        refine (hfuel.groupItem _ verbose hs).bind ?_
        rintro item s item' s' ⟨hitem, hs⟩
        cases hitem with
        | none =>
          refine Follows.get_bind ?_
          rw [hs.flags]
          exact hfuel.sequence first _ hitems hs
        | some hitem => exact hfuel.sequence first verbose (.cons hitem hitems) hs
      · exact hfuel.sequence first verbose (.cons (.char (.same _)) hitems) hs

/-- A body with its closing parenthesis, and what is made of it. -/
theorem body_follows (hL : Folds L refusable) {fuel : Nat} (hfuel : FollowsAt L refusable fuel) (verbose : Bool)
    (start : Nat) {f f' : Regex → Regex}
    (hf : ∀ {body body'}, SameShape L body body' → SameShape L (f body) (f' body')) (h : Like L 0 r r') :
    Follows refusable (Ends L 0 (Option.Rel (SameShape L)))
      (do
        let body ← alternatives false verbose fuel []
        closing start
        return some (f body)) r
      (do
        let body ← alternatives false verbose fuel []
        closing start
        return some (f' body)) r' := by
  refine (hfuel.alternatives false verbose .nil h).bind ?_
  rintro body s body' s' ⟨hbody, hs⟩
  exact (closing_follows hL hs start).bind fun hq => .pure ⟨.some (hf hbody), hq.2⟩

theorem groupItem_follows (hL : Folds L refusable) {fuel : Nat} (hfuel : FollowsAt L refusable fuel)
    (atStart verbose : Bool) (h : Like L 0 r r') :
    Follows refusable (Ends L 0 (Option.Rel (SameShape L))) (groupItem atStart verbose (fuel + 1)) r
      (groupItem atStart verbose (fuel + 1)) r' := by
  rw [groupItem]
  refine Follows.get_bind ?_
  rw [h.position]
  dsimp only
  refine (accept_follows hL h (by decide)).bind ?_
  rintro marked s marked' s' ⟨rfl, hs⟩
  refine Follows.ite_bind (fun _ => extension_follows hL hs _ atStart)
    (fun _ => .pure ⟨⟨rfl, trivial⟩, hs⟩) ?_
  rintro opening s _ s' ⟨⟨rfl, hunnamed⟩, hs⟩
  cases opening with
  | reference index => exact hunnamed.elim
  | nothing => exact .pure ⟨.none, hs⟩
  | plain add remove => exact body_follows hL hfuel _ _ (.flagged add remove) hs
  | atomic => exact body_follows hL hfuel _ _ .atomic hs
  | ahead negated => exact body_follows hL hfuel _ _ (.look .ahead negated) hs
  | capture name =>
    cases name with
    | some name => exact hunnamed.elim
    | none =>
      refine (openGroup_follows hs).bind ?_
      rintro index s _ s' ⟨rfl, hs⟩
      refine (hfuel.alternatives false verbose .nil hs).bind ?_
      rintro body s body' s' ⟨hbody, hs⟩
      refine (closing_follows hL hs _).bind ?_
      rintro _ s _ s' ⟨-, hs⟩
      exact (closeGroup_follows hs index hbody).bind fun hq => .pure ⟨.some (.group index hbody), hq.2⟩
  | behind negated =>
    refine Follows.get_bind ?_
    refine (Follows.modify (Q := Ends L 0 Eq) ⟨rfl, ?_⟩).bind ?_
    · exact ⟨hs.rest, hs.position, hs.flags, hs.groups, hs.names, by rw [hs.lookbehindGroups, hs.groups], hs.asked⟩
    rintro _ t _ t' ⟨-, ht⟩
    refine (hfuel.alternatives false verbose .nil ht).bind ?_
    rintro body t body' t' ⟨hbody, ht⟩
    refine (Follows.modify (Q := Ends L 0 Eq) ⟨rfl, ?_⟩).bind ?_
    · exact ⟨ht.rest, ht.position, ht.flags, ht.groups, ht.names, hs.lookbehindGroups, ht.asked⟩
    rintro _ t _ t' ⟨-, ht⟩
    refine (closing_follows hL ht _).bind ?_
    rintro _ t _ t' ⟨-, ht⟩
    refine Follows.get_bind ?_
    rw [ht.widths, hbody.width]
    exact .pure ⟨.some (.look _ negated hbody), ht⟩
  | conditional index =>
    refine (hfuel.sequence false verbose .nil hs).bind ?_
    rintro yes s yes' s' ⟨hyes, hs⟩
    have hclosing : ∀ {no no' : Regex}, SameShape L no no' → ∀ {t t' : Reader}, Like L 0 t t' →
        Follows refusable (Ends L 0 (Option.Rel (SameShape L)))
          (do closing (r'.position - 1); return some (.conditional index yes no)) t
          (do closing (r'.position - 1); return some (.conditional index yes' no')) t' := fun hno _ _ ht =>
      (closing_follows hL ht _).bind fun hq => .pure ⟨.some (.conditional index hyes hno), hq.2⟩
    refine (accept_follows hL hs (by decide)).bind ?_
    rintro bar s bar' s' ⟨rfl, hs⟩
    refine .ite Iff.rfl (fun _ => ?_) fun _ => hclosing .empty hs
    refine (hfuel.sequence false verbose .nil hs).bind ?_
    rintro no s no' s' ⟨hno, hs⟩
    simp only [peek, bind_assoc, pure_bind]
    exact Follows.get_bind (.check (head?_sign_iff hL hs (by decide)) ⟨_, rfl⟩ (hclosing hno hs))

/-- What is nested follows with any fuel. -/
theorem followsAt (hL : Folds L refusable) (fuel : Nat) : FollowsAt L refusable fuel := by
  induction fuel with
  | zero => exact ⟨fun _ _ _ _ _ _ _ _ => .refused rfl, fun _ _ _ _ _ _ _ _ => .refused rfl,
      fun _ _ _ _ _ => .refused rfl⟩
  | succ fuel ih =>
    exact ⟨fun top verbose _ _ _ _ hbefore h => alternatives_follows hL ih top verbose hbefore h,
      fun first verbose _ _ _ _ hitems h => sequence_follows hL ih first verbose hitems h,
      fun atStart verbose _ _ h => groupItem_follows hL ih atStart verbose h⟩

/-! ## Whole patterns -/

theorem wholePattern_follows (hL : Folds L refusable) (h : Like L 0 r r') (fuel : Nat) :
    Follows refusable (Ends L 0 (SameShape L)) (wholePattern fuel) r (wholePattern fuel) r' := by
  unfold wholePattern
  refine (skip_follows hL (m := 0) (k := 0) h h.rest).bind ?_
  rintro _ s _ s' ⟨-, hs⟩
  refine ((followsAt hL fuel).alternatives true false .nil hs).bind ?_
  rintro regex s regex' s' ⟨hregex, hs⟩
  refine Follows.get_bind ?_
  rw [hs.flags, hs.asked, hs.groups, isEmpty_eq (hs.rest.kinds hL)]
  refine .check Iff.rfl ⟨_, rfl⟩ (.check Iff.rfl ⟨_, rfl⟩ ?_)
  split
  · exact .refused rfl
  · exact .pure ⟨hregex, hs⟩

/-- **Patterns that are alike** are read as expressions of one shape under the same flags, or the second one
is refused for a reason that may occur. -/
theorem compile_follows (hL : Folds L refusable) {p q : String} {e : Compiled} (hp : compile p = .ok e)
    (h : Alike L 0 (tokens p.toList) (tokens q.toList)) :
    (∃ e', compile q = .ok e' ∧ e'.mode = e.mode ∧ SameShape L e.regex e'.regex) ∨
      ∃ f, compile q = .error f ∧ refusable f.problem := by
  unfold compile at hp ⊢
  dsimp only at hp ⊢
  have hstart : Like L 0 (.ofTokens (tokens p.toList)) (.ofTokens (tokens q.toList)) :=
    ⟨h, rfl, rfl, rfl, ⟨rfl, rfl⟩, rfl, rfl⟩
  rw [(h.kinds hL).length_eq] at hp
  split at hp
  · cases hp
  · rename_i regex s hrun
    rcases wholePattern_follows hL hstart _ regex s hrun with ⟨regex', s', hrun', hregex, hs⟩ | ⟨f, hrun', hf⟩
    · rw [hrun']
      dsimp only
      rw [← hs.flags, ← hregex.unmatchable?]
      split at hp
      · cases hp
      · cases hp
        exact Or.inl ⟨_, rfl, rfl, hregex⟩
    · rw [hrun']
      exact Or.inr ⟨_, rfl, hf⟩

end WordLint.Regex
