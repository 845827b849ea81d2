import Mathlib
import WordLint.Proofs.Regex.Following

/-!
# Items of patterns that are alike

The items of two patterns that are alike have one shape: escapes are the same, sets and repetitions differ
in their characters alone. A range may be turned around by that, so that it is refused.
-/

namespace WordLint.Regex

variable {L : Char → Char → Prop} {refusable : Problem → Prop} {n : Nat} {r r' : Reader}

/-! ## Escapes -/

/-- The letters of controls, classes and positions ask for no digits. -/
theorem digitsAfter_of_named {c : Char}
    (h : (controlCode? c).isSome ∨ (namedClass? c).isSome ∨ (namedAnchor? c).isSome) : digitsAfter c = 0 := by
  refine digitsAfter_eq_zero ?_ ?_ ?_
  · rintro rfl; exact absurd h (by decide)
  · rintro rfl; exact absurd h (by decide)
  · rintro rfl; exact absurd h (by decide)

theorem setEscape_follows (hL : Folds L refusable) {c : Char} (h : Like L (digitsAfter c) r r') :
    Follows refusable (Ends L 0 (SameItem L)) (setEscape c) r (setEscape c) r' := by
  unfold setEscape
  cases hcontrol : controlCode? c with
  | some code =>
    rw [digitsAfter_of_named (Or.inl (by rw [hcontrol]; rfl))] at h
    exact .pure ⟨.refl _, h⟩
  | none =>
    cases hnamed : namedClass? c with
    | some item =>
      rw [digitsAfter_of_named (Or.inr (Or.inl (by rw [hnamed]; rfl)))] at h
      exact .pure ⟨.refl _, h⟩
    | none =>
      have hhex : ∀ {k}, Like L k r r' → Follows refusable (Ends L 0 (SameItem L))
          (do return SetItem.char (← hexEscape c k)) r (do return SetItem.char (← hexEscape c k)) r' :=
        fun hk => (hexEscape_follows hL hk c).bind fun hq => .pure ⟨hq.1 ▸ .refl _, hq.2⟩
      dsimp only
      refine .ite Iff.rfl (fun hx => ?_) fun hx => .ite Iff.rfl (fun hu => ?_) fun hu =>
        .ite Iff.rfl (fun hU => ?_) fun hU => ?_
      · exact hhex (by rwa [hx] at h)
      · exact hhex (by rwa [hu] at h)
      · exact hhex (by rwa [hU] at h)
      · rw [digitsAfter_eq_zero hx hu hU] at h
        refine .ite Iff.rfl (fun _ => ?_) fun _ => .check Iff.rfl ⟨_, rfl⟩ ?_
        · refine (takeRun_same hL h hL.octal 2).bind ?_
          rintro ds s ds' s' ⟨rfl, hs⟩
          exact (octalCode_follows hs c ds).bind fun hq => .pure ⟨hq.1 ▸ .refl _, hq.2⟩
        · exact (plainEscape_follows h c).bind fun hq => .pure ⟨hq.1 ▸ .refl _, hq.2⟩

theorem Like.closedWidth? (h : Like L n r r') (index : Nat) : r.closedWidth? index = r'.closedWidth? index := by
  unfold Reader.closedWidth?
  rw [h.groups]

theorem checkLookbehind_follows (h : Like L 0 r r') (index : Nat) :
    Follows refusable (Ends L 0 Eq) (checkLookbehind index) r (checkLookbehind index) r' := by
  unfold checkLookbehind
  refine Follows.get_bind ?_
  rw [h.lookbehindGroups]
  cases r'.lookbehindGroups with
  | none => exact .pure ⟨rfl, h⟩
  | some limit =>
    dsimp only
    rw [h.closedWidth?]
    exact .check Iff.rfl ⟨_, rfl⟩ (.check Iff.rfl ⟨_, rfl⟩ (.pure ⟨rfl, h⟩))

theorem numberEscape_follows (hL : Folds L refusable) (h : Like L 0 r r') (c : Char) :
    Follows refusable (Ends L 0 (SameShape L)) (numberEscape c) r (numberEscape c) r' := by
  have hreference : ∀ (second : List Char) {s s' : Reader}, Like L 0 s s' →
      Follows refusable (Ends L 0 (SameShape L))
        (do
          let r ← get
          if ofBase 10 (c :: second) < r.groups.length then
            if (r.closedWidth? (ofBase 10 (c :: second))).isNone then
              failBack (second.length + 2) .openGroup
            checkLookbehind (ofBase 10 (c :: second))
            return .backref (ofBase 10 (c :: second))
          failBack (second.length + 1) (.noSuchGroup (ofBase 10 (c :: second)))) s
        (do
          let r ← get
          if ofBase 10 (c :: second) < r.groups.length then
            if (r.closedWidth? (ofBase 10 (c :: second))).isNone then
              failBack (second.length + 2) .openGroup
            checkLookbehind (ofBase 10 (c :: second))
            return .backref (ofBase 10 (c :: second))
          failBack (second.length + 1) (.noSuchGroup (ofBase 10 (c :: second)))) s' := by
    intro second s s' hs
    refine Follows.get_bind (.ite (by rw [hs.groups]) (fun _ => ?_) fun _ => .refused rfl)
    dsimp only
    rw [hs.closedWidth?]
    refine .check Iff.rfl ⟨_, rfl⟩ ?_
    exact (checkLookbehind_follows hs _).bind fun hq => .pure ⟨.backref _, hq.2⟩
  unfold numberEscape
  refine (takeRun_same hL h hL.digit 1).bind ?_
  rintro second s second' s' ⟨rfl, hs⟩
  refine .ite Iff.rfl (fun _ => ?_) fun _ => hreference second hs
  refine (takeRun_same hL hs hL.octal 1).bind ?_
  rintro third t third' t' ⟨rfl, ht⟩
  refine .ite Iff.rfl (fun _ => ?_) fun _ => hreference second ht
  exact (octalCode_follows ht c _).bind fun hq => .pure ⟨hq.1 ▸ .char (.same _), hq.2⟩

theorem escape_follows (hL : Folds L refusable) {c : Char} (h : Like L (digitsAfter c) r r') :
    Follows refusable (Ends L 0 (SameShape L)) (escape c) r (escape c) r' := by
  unfold escape
  cases hanchor : namedAnchor? c with
  | some a =>
    rw [digitsAfter_of_named (Or.inr (Or.inr (by rw [hanchor]; rfl)))] at h
    exact .pure ⟨.anchor a, h⟩
  | none =>
    cases hnamed : namedClass? c with
    | some item =>
      rw [digitsAfter_of_named (Or.inr (Or.inl (by rw [hnamed]; rfl)))] at h
      exact .pure ⟨.set false (.cons (.refl item) .nil), h⟩
    | none =>
      cases hcontrol : controlCode? c with
      | some code =>
        rw [digitsAfter_of_named (Or.inl (by rw [hcontrol]; rfl))] at h
        exact .pure ⟨.char (.same code), h⟩
      | none =>
        have hhex : ∀ {k}, Like L k r r' → Follows refusable (Ends L 0 (SameShape L))
            (do return Regex.char (← hexEscape c k)) r (do return Regex.char (← hexEscape c k)) r' :=
          fun hk => (hexEscape_follows hL hk c).bind fun hq => .pure ⟨hq.1 ▸ .char (.same _), hq.2⟩
        dsimp only
        refine .ite Iff.rfl (fun hx => ?_) fun hx => .ite Iff.rfl (fun hu => ?_) fun hu =>
          .ite Iff.rfl (fun hU => ?_) fun hU => ?_
        · exact hhex (by rwa [hx] at h)
        · exact hhex (by rwa [hu] at h)
        · exact hhex (by rwa [hU] at h)
        · rw [digitsAfter_eq_zero hx hu hU] at h
          refine .ite Iff.rfl (fun _ => ?_) fun _ => .ite Iff.rfl (fun _ => ?_) fun _ => ?_
          · exact (takeRun_same hL h hL.octal 2).bind fun hq => .pure ⟨hq.1 ▸ .char (.same _), hq.2⟩
          · exact numberEscape_follows hL h c
          · exact (plainEscape_follows h c).bind fun hq => .pure ⟨hq.1 ▸ .char (.same _), hq.2⟩

/-! ## Bracketed sets -/

theorem setItem_follows (hL : Folds L refusable) {t t' : Token} (h : Taken L t r t' r') :
    Follows refusable (Ends L 0 (SameItem L)) (setItem t) r (setItem t') r' := by
  cases h with
  | char hcd h => exact .pure ⟨.char (.literal hcd), h⟩
  | escape c h => exact setEscape_follows hL h

/-- The items of a set. Only a range can be refused in the second pattern alone. -/
theorem setItems_follows (hL : Folds L refusable) (start fuel : Nat) {items items' : List SetItem}
    (hitems : List.Forall₂ (SameItem L) items items') (h : Like L 0 r r') :
    Follows refusable (Ends L 0 (List.Forall₂ (SameItem L))) (setItems start fuel items) r
      (setItems start fuel items') r' := by
  induction fuel generalizing items items' r r' with
  | zero => exact .refused rfl
  | succ fuel ih =>
    have hempty : items.isEmpty = items'.isEmpty := by cases hitems <;> rfl
    rw [setItems, setItems]
    refine (next_follows hL h).bind ?_
    rintro low s low' s' hlow
    cases hlow with
    | none => exact .refused rfl
    | some hlow =>
      refine .ite ?_ (fun _ => ?_) fun _ => ?_
      · simp only [Bool.and_eq_true, decide_eq_true_eq, hlow.sign hL (c := ']') (by decide), hempty]
      · cases hlow with
        | char _ hs => exact .pure ⟨List.forall₂_reverse_iff.mpr hitems, hs⟩
        | escape => contradiction
      · refine (setItem_follows hL hlow).bind ?_
        rintro item s item' s' ⟨hitem, hs⟩
        refine (accept_taken hL hs (by decide)).bind ?_
        rintro hyphen s hyphen' s' ⟨⟨rfl, htaken⟩, hs⟩
        refine .ite Iff.rfl (fun _ => ?_) fun hrange => ?_
        · exact ih (.cons hitem hitems) hs
        refine (next_follows hL hs).bind ?_
        rintro high s high' s' hhigh
        cases hhigh with
        | none => exact .refused rfl
        | some hhigh =>
          refine .ite (hhigh.sign hL (by decide)) (fun hend => ?_) fun _ => ?_
          · cases hhigh with
            | char _ hs =>
              exact .pure ⟨List.forall₂_reverse_iff.mpr (.cons (.refl _) (.cons hitem hitems)), hs⟩
            | escape => cases hend
          · refine (setItem_follows hL hhigh).bind ?_
            rintro last s last' s' ⟨hlast, hs⟩
            cases hitem with
            | range | named => exact .refused rfl
            | @char a a' ha =>
              cases hlast with
              | range | named => exact .refused rfl
              | @char b b' hb =>
                have hmore := ih (.cons (.range ha hb) hitems) hs
                rcases hL.range with heq | hrefusable | hnone
                · refine .check ?_ ⟨_, rfl⟩ hmore
                  rw [ha.eq heq, hb.eq heq]
                · dsimp only
                  by_cases hback : b' < a'
                  · rw [if_pos hback]
                    exact .refuses rfl (hrefusable _ _)
                  · rw [if_neg hback]
                    by_cases hback : b < a
                    · rw [if_pos hback]
                      exact .refused rfl
                    · rw [if_neg hback]
                      exact hmore
                · exact absurd (htaken (by simpa using hrange)) hnone

theorem bracketed_follows (hL : Folds L refusable) (h : Like L 0 r r') :
    Follows refusable (Ends L 0 (SameShape L)) bracketed r bracketed r' := by
  unfold bracketed
  refine Follows.get_bind ?_
  refine (accept_follows hL h (by decide)).bind ?_
  rintro negated s negated' s' ⟨rfl, hs⟩
  rw [h.position, (h.rest.kinds hL).length_eq]
  exact (setItems_follows hL _ _ .nil hs).bind fun hq => .pure ⟨.set negated hq.1, hq.2⟩

/-! ## Repetition -/

theorem count_follows (h : Like L n r r') (digits : List Char) :
    Follows refusable (Ends L n Eq) (count digits) r (count digits) r' := by
  unfold count
  dsimp only
  exact .check Iff.rfl ⟨_, rfl⟩ (.check Iff.rfl ⟨_, rfl⟩ (.pure ⟨rfl, h⟩))

theorem counts_follows (hL : Folds L refusable) (h : Like L 0 r r') (sign : Char) :
    Follows refusable (Ends L 0 Eq) (counts sign) r (counts sign) r' := by
  have hbrace : ∀ (low high : List Char) {s s' : Reader}, Like L 0 s s' → Follows refusable (Ends L 0 Eq)
      (do
        if !(← accept '\x7d') then
          modify fun _ => r
          return none
        let least ← count low
        let most ← count high
        if high.isEmpty then return some (least, none)
        if most < least then failAt r.position .leastAboveMost
        return some (least, some most)) s
      (do
        if !(← accept '\x7d') then
          modify fun _ => r'
          return none
        let least ← count low
        let most ← count high
        if high.isEmpty then return some (least, none)
        if most < least then failAt r'.position .leastAboveMost
        return some (least, some most)) s' := by
    intro low high s s' hs
    refine (accept_follows hL hs (by decide)).bind ?_
    rintro closed s closed' s' ⟨rfl, hs⟩
    refine .ite Iff.rfl (fun _ => ?_) fun _ => ?_
    · exact (Follows.modify (Q := Ends L 0 Eq) ⟨rfl, h⟩).bind fun hq => .pure ⟨rfl, hq.2⟩
    refine (count_follows hs low).bind ?_
    rintro least s least' s' ⟨rfl, hs⟩
    refine (count_follows hs high).bind ?_
    rintro most s most' s' ⟨rfl, hs⟩
    exact .ite Iff.rfl (fun _ => .pure ⟨rfl, hs⟩) fun _ =>
      .check Iff.rfl ⟨_, rfl⟩ (.pure ⟨rfl, hs⟩)
  unfold counts
  split
  · exact .pure ⟨rfl, h⟩
  · exact .pure ⟨rfl, h⟩
  · exact .pure ⟨rfl, h⟩
  · refine Follows.get_bind ?_
    simp only [peek, bind_assoc, pure_bind]
    refine Follows.get_bind (.ite (head?_sign_iff hL h (by decide)) (fun _ => .pure ⟨rfl, h⟩) fun _ => ?_)
    refine (takeAll_same hL h hL.digit).bind ?_
    rintro low s low' s' ⟨rfl, hs⟩
    refine (accept_follows hL hs (by decide)).bind ?_
    rintro comma s comma' s' ⟨rfl, hs⟩
    refine .ite Iff.rfl (fun _ => ?_) fun _ => hbrace low low hs
    refine (takeAll_same hL hs hL.digit).bind ?_
    rintro high s high' s' ⟨rfl, hs⟩
    exact hbrace low high hs

theorem greed_follows (hL : Folds L refusable) (h : Like L 0 r r') :
    Follows refusable (Ends L 0 Eq) greed r greed r' := by
  unfold greed
  refine (accept_follows hL h (by decide)).bind ?_
  rintro reluctant s reluctant' s' ⟨rfl, hs⟩
  refine .ite Iff.rfl (fun _ => .pure ⟨rfl, hs⟩) fun _ => ?_
  refine (accept_follows hL hs (by decide)).bind ?_
  rintro possessive s possessive' s' ⟨rfl, hs⟩
  exact .ite Iff.rfl (fun _ => .pure ⟨rfl, hs⟩) fun _ => .pure ⟨rfl, hs⟩

theorem repetition_follows (hL : Folds L refusable) (h : Like L 0 r r') (sign : Char)
    {items items' : List Regex} (hitems : List.Forall₂ (SameShape L) items items') :
    Follows refusable (Ends L 0 (List.Forall₂ (SameShape L))) (repetition sign items) r
      (repetition sign items') r' := by
  unfold repetition
  refine Follows.get_bind ((counts_follows hL h sign).bind ?_)
  rintro count s count' s' ⟨rfl, hs⟩
  cases count with
  | none => exact .pure ⟨.cons (.char (.same _)) hitems, hs⟩
  | some count =>
    cases hitems with
    | nil => exact .refused rfl
    | @cons item item' before before' hitem hbefore =>
      dsimp only [List.head?_cons]
      rw [hitem.repetitionProblem?]
      cases repetitionProblem? (some item') with
      | some problem => exact .refused rfl
      | none =>
        refine (greed_follows hL hs).bind ?_
        rintro greed s greed' s' ⟨rfl, hs⟩
        exact .pure ⟨.cons (.repeated greed _ _ hitem) hbefore, hs⟩

end WordLint.Regex
