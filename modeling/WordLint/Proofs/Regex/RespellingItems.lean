import Mathlib
import WordLint.Proofs.Regex.Respelling

/-!
# Items of patterns that are spelled alike

Escapes, sets and repetitions read the same from a pattern and from one in which characters are written as
escapes. An escape that is new in the second pattern reads as the character itself
(`escape_written`, `setEscape_written`). All this is quiet but for sets: a set ends in its closing bracket
(`bracketed_level`).
-/

namespace WordLint.Regex

variable {W : Char → Prop} {P : Token → Prop} {r₀ r r' s s' : Reader} {c d : Char} {ds : List Char}
  {us : List Token}

/-! ## Digits -/

theorem ordinary_isDigit : Ordinary NoOpening Char.isDigit where
  spelling _ := forall_spelling? (P := fun c => c.isDigit = false) (by decide)
  taken c hc := by rintro ⟨⟩; cases hc

theorem ordinary_isOctal : Ordinary NoOpening isOctal where
  spelling _ := forall_spelling? (P := fun c => isOctal c = false) (by decide)
  taken c hc := by rintro ⟨⟩; cases hc

theorem ordinary_isHex : Ordinary NoOpening isHex where
  spelling _ := forall_spelling? (P := fun c => isHex c = false) (by decide)
  taken c hc := by rintro ⟨⟩; cases hc

/-! ## Escapes -/

theorem hexEscape_quiet (h : Along W NoOpening r₀ r r') (c : Char) (k : Nat) :
    Quiet W r₀ (hexEscape c k) r (hexEscape c k) r' := by
  unfold hexEscape
  refine (takeRun_level h ordinary_isHex k).bind ?_
  rintro ds s _ s' ⟨rfl, hs⟩
  dsimp only
  exact .check Iff.rfl ⟨_, rfl⟩ (.check Iff.rfl ⟨_, rfl⟩ (.check Iff.rfl ⟨_, rfl⟩ (.pure ⟨rfl, hs⟩)))

theorem plainEscape_quiet (h : Along W NoOpening r₀ r r') (c : Char) :
    Quiet W r₀ (plainEscape c) r (plainEscape c) r' := by
  unfold plainEscape
  dsimp only
  exact .check Iff.rfl ⟨_, rfl⟩ (.pure ⟨rfl, h⟩)

theorem octalCode_quiet (h : Along W NoOpening r₀ r r') (c : Char) (ds : List Char) :
    Quiet W r₀ (octalCode c ds) r (octalCode c ds) r' := by
  unfold octalCode
  dsimp only
  exact .check Iff.rfl ⟨_, rfl⟩ (.pure ⟨rfl, h⟩)

theorem setEscape_quiet (h : Along W NoOpening r₀ r r') (c : Char) :
    Quiet W r₀ (setEscape c) r (setEscape c) r' := by
  have hhex : ∀ k, Quiet W r₀ (do return SetItem.char (← hexEscape c k)) r
      (do return SetItem.char (← hexEscape c k)) r' := fun k =>
    (hexEscape_quiet h c k).bind fun hq => .pure ⟨congrArg _ hq.1, hq.2⟩
  unfold setEscape
  cases controlCode? c with
  | some code => exact .pure ⟨rfl, h⟩
  | none =>
    cases namedClass? c with
    | some item => exact .pure ⟨rfl, h⟩
    | none =>
      dsimp only
      refine .ite Iff.rfl (fun _ => hhex 2) fun _ => .ite Iff.rfl (fun _ => hhex 4) fun _ =>
        .ite Iff.rfl (fun _ => hhex 8) fun _ => .ite Iff.rfl (fun _ => ?_) fun _ => .check Iff.rfl ⟨_, rfl⟩ ?_
      · refine (takeRun_level h ordinary_isOctal 2).bind ?_
        rintro ds s _ s' ⟨rfl, hs⟩
        exact (octalCode_quiet hs c ds).bind fun hq => .pure ⟨congrArg _ hq.1, hq.2⟩
      · exact (plainEscape_quiet h c).bind fun hq => .pure ⟨congrArg _ hq.1, hq.2⟩

theorem Twins.closedWidth? (h : Twins W r r') (index : Nat) : r.closedWidth? index = r'.closedWidth? index := by
  unfold Reader.closedWidth?
  rw [h.groups]

theorem checkLookbehind_level (h : Along W P r₀ r r') (index : Nat) :
    Follows Never (Level W P r₀) (checkLookbehind index) r (checkLookbehind index) r' := by
  unfold checkLookbehind
  refine Follows.get_bind ?_
  rw [h.twins.lookbehindGroups]
  cases r'.lookbehindGroups with
  | none => exact .pure ⟨rfl, h⟩
  | some limit =>
    dsimp only
    rw [h.twins.closedWidth?]
    exact .check Iff.rfl ⟨_, rfl⟩ (.check Iff.rfl ⟨_, rfl⟩ (.pure ⟨rfl, h⟩))

/-- A number that refers to a group. -/
def groupNumber (c : Char) (second : List Char) : Read Regex := do
  let index := ofBase 10 (c :: second)
  let r ← get
  if index < r.groups.length then
    if (r.closedWidth? index).isNone then failBack (second.length + 2) .openGroup
    checkLookbehind index
    return .backref index
  failBack (second.length + 1) (.noSuchGroup index)

theorem groupNumber_quiet (h : Along W NoOpening r₀ r r') (c : Char) (second : List Char) :
    Quiet W r₀ (groupNumber c second) r (groupNumber c second) r' := by
  unfold groupNumber
  refine Follows.get_bind (.ite (by rw [h.twins.groups]) (fun _ => ?_) fun _ => .refused rfl)
  dsimp only
  rw [h.twins.closedWidth?]
  refine .check Iff.rfl ⟨_, rfl⟩ ?_
  exact (checkLookbehind_level h _).bind fun hq => .pure ⟨rfl, hq.2⟩

theorem numberEscape_quiet (h : Along W NoOpening r₀ r r') (c : Char) :
    Quiet W r₀ (numberEscape c) r (numberEscape c) r' := by
  unfold numberEscape
  refine (takeRun_level h ordinary_isDigit 1).bind ?_
  rintro second s _ s' ⟨rfl, hs⟩
  refine .ite Iff.rfl (fun _ => ?_) fun _ => groupNumber_quiet hs c second
  refine (takeRun_level hs ordinary_isOctal 1).bind ?_
  rintro third t _ t' ⟨rfl, ht⟩
  refine .ite Iff.rfl (fun _ => ?_) fun _ => groupNumber_quiet ht c second
  exact (octalCode_quiet ht c _).bind fun hq => .pure ⟨congrArg _ hq.1, hq.2⟩

theorem escape_quiet (h : Along W NoOpening r₀ r r') (c : Char) :
    Quiet W r₀ (escape c) r (escape c) r' := by
  have hhex : ∀ k, Quiet W r₀ (do return Regex.char (← hexEscape c k)) r
      (do return Regex.char (← hexEscape c k)) r' := fun k =>
    (hexEscape_quiet h c k).bind fun hq => .pure ⟨congrArg _ hq.1, hq.2⟩
  unfold escape
  cases namedAnchor? c with
  | some a => exact .pure ⟨rfl, h⟩
  | none =>
    cases namedClass? c with
    | some item => exact .pure ⟨rfl, h⟩
    | none =>
      cases controlCode? c with
      | some code => exact .pure ⟨rfl, h⟩
      | none =>
        dsimp only
        refine .ite Iff.rfl (fun _ => hhex 2) fun _ => .ite Iff.rfl (fun _ => hhex 4) fun _ =>
          .ite Iff.rfl (fun _ => hhex 8) fun _ => .ite Iff.rfl (fun _ => ?_) fun _ =>
          .ite Iff.rfl (fun _ => numberEscape_quiet h c) fun _ => ?_
        · exact (takeRun_level h ordinary_isOctal 2).bind fun hq => .pure ⟨congrArg _ (congrArg _ hq.1), hq.2⟩
        · exact (plainEscape_quiet h c).bind fun hq => .pure ⟨congrArg _ hq.1, hq.2⟩

/-! ## Escapes that are new in the second pattern -/

/-- Digits that stand in front of something else are taken. -/
theorem takeRun_isHex_run (hrest : r.rest = ds.map .char ++ us)
    (hds : ds.all isHex = true) (hne : ds ≠ []) (hnext : us.head? ≠ some .dangling) :
    (takeRun ds.length isHex).run r =
      .ok (ds, { r with rest := us, position := r.position + widthOf (ds.map .char) }) := by
  have hfront : frontChars isHex ds.length r.rest = ds := by
    rw [hrest]
    clear hrest hne hnext
    induction ds with
    | nil => cases us <;> rfl
    | cons d ds ih =>
      rw [List.all_cons, Bool.and_eq_true] at hds
      rw [List.length_cons, List.map_cons, List.cons_append, frontChars, if_pos hds.1, ih hds.2]
  have hlength : (ds.map Token.char).length = ds.length := List.length_map _
  have hlast : ¬ (r.rest.take (ds.length + 1)).getLast? = some .dangling := by
    rw [getLast?_take_succ, hrest, ← hlength, List.drop_left]
    split
    · rename_i hnil
      intro hlast
      rw [hnil, List.append_nil] at hlast
      simpa using List.mem_of_getLast? hlast
    · exact hnext
  rw [takeRun_run, hfront, if_pos (by simpa using hne), run_bind_ok (by rw [skip_run, if_neg hlast]), hrest,
    ← hlength, List.drop_left, List.take_left]
  rfl

/-- The code point that is written in four digits. -/
theorem hexEscape_four_run (hrest : r.rest = ds.map .char ++ us)
    (hds : ds.all isHex = true) (hlength : ds.length = 4) (hnext : us.head? ≠ some .dangling)
    (hcode : ofBase 16 ds ≤ 0x10FFFF) (c : Char) :
    (hexEscape c 4).run r =
      .ok (ofBase 16 ds, { r with rest := us, position := r.position + widthOf (ds.map .char) }) := by
  have hne : ds ≠ [] := by
    rintro rfl
    cases hlength
  have htake := takeRun_isHex_run hrest hds hne hnext
  rw [hlength] at htake
  unfold hexEscape
  rw [run_bind_ok htake]
  dsimp only
  rw [if_neg (not_not.mpr hlength), if_neg (Nat.not_lt.mpr (hcode.trans (by decide))),
    if_neg (Nat.not_lt.mpr hcode)]
  rfl

/-- The letters of escapes without digits stand for one character in both kinds of places. -/
theorem escape_letter_run (hd : spelling? c = some (d, [])) (r : Reader) :
    (escape d).run r = .ok (.char c.toNat, r) ∧ (setEscape d).run r = .ok (.char c.toNat, r) := by
  rcases spelling?_eq_some_iff.mp hd with ⟨rfl, rfl, -⟩ | ⟨rfl, rfl, -⟩ | ⟨rfl, rfl, -⟩ | ⟨-, -, ⟨⟩⟩ | ⟨-, -, ⟨⟩⟩
  · exact ⟨rfl, rfl⟩
  · exact ⟨rfl, rfl⟩
  · exact ⟨rfl, rfl⟩

/-- The letter of an escape with digits is that of four hexadecimal ones, which give the character. -/
theorem escape_digits (hd : spelling? c = some (d, ds)) (hds : ds ≠ []) :
    d = 'u' ∧ ds.all isHex = true ∧ ds.length = 4 ∧ ofBase 16 ds = c.toNat ∧ c.toNat ≤ 0x10FFFF := by
  rcases spelling?_eq_some_iff.mp hd with
    ⟨-, -, rfl⟩ | ⟨-, -, rfl⟩ | ⟨-, -, rfl⟩ | ⟨rfl, rfl, rfl⟩ | ⟨rfl, rfl, rfl⟩
  · exact absurd rfl hds
  · exact absurd rfl hds
  · exact absurd rfl hds
  · exact ⟨rfl, rfl, rfl, rfl, by decide⟩
  · exact ⟨rfl, rfl, rfl, rfl, by decide⟩

/-- **An escape that stands for one of the five characters reads as the character**, outside a set and in
one. -/
theorem escape_written (hd : spelling? c = some (d, ds)) (hrest : r.rest = ds.map .char ++ us)
    (hnext : us.head? ≠ some .dangling) :
    let r' := { r with rest := us, position := r.position + widthOf (ds.map .char) }
    (escape d).run r = .ok (.char c.toNat, r') ∧ (setEscape d).run r = .ok (.char c.toNat, r') := by
  by_cases hds : ds = []
  · subst hds
    obtain ⟨rest, position, flags, groups, names, lookbehindGroups, asked⟩ := r
    cases hrest
    exact escape_letter_run hd _
  · obtain ⟨rfl, hhex, hlength, hcode, hbound⟩ := escape_digits hd hds
    have hrun := hexEscape_four_run hrest hhex hlength hnext (hcode ▸ hbound) 'u'
    rw [hcode] at hrun
    exact ⟨run_bind_ok hrun, run_bind_ok hrun⟩

/-! ## Bracketed sets -/

/-- Any token: inside a set and in comments all are passed over. -/
def AnyToken (_ : Token) : Prop :=
  True

/-- A token that has been taken is an item of a set, and the same in both patterns. -/
theorem setItem_level {u u' : Token} (h : Pulled W r u s u' s') :
    Follows Never (Level W AnyToken r) (setItem u) s (setItem u') s' := by
  cases h with
  | same u hfront h =>
    have hany : Along W AnyToken r s s' := ⟨h.twins, h.passes.mono fun _ _ => trivial⟩
    cases u with
    | char c => exact .pure ⟨rfl, hany⟩
    | dangling => exact .pure ⟨rfl, hany⟩
    | escape c => exact hany.follows (setEscape_quiet h.twins.along c) fun _ _ => trivial
  | @written c d ds us _ _ hfront hc hd hrest hnext h =>
    intro item t hrun
    cases hrun
    refine Or.inl ⟨_, _, (escape_written hd hrest hnext).2, rfl, ?_⟩
    exact ⟨h.moved.twins, h.passes.mono fun _ _ => trivial⟩

/-- A reader that has taken tokens up to a closing bracket since it was `r`. -/
structure Closes (r s : Reader) : Prop where
  passes : Passes AnyToken r s
  taken : ∃ taken, r.rest = taken ++ .char ']' :: s.rest

/-- A closing bracket that has been taken ends a set. -/
theorem Pulled.closes (hr : Passes AnyToken r₀ r) (h : Pulled W r (.char ']') s (.char ']') s') :
    Twins W s s' ∧ Closes r₀ s := by
  obtain ⟨taken, htaken, -⟩ := hr.taken
  have hpasses := hr.trans (h.passes.mono fun _ _ => trivial)
  cases h with
  | same t hfront h => exact ⟨h.twins, hpasses, taken, by rw [htaken, hfront]⟩

theorem setItems_level (start start' : Nat) {fuel fuel' : Nat} (hfuel : fuel ≤ fuel') (items : List SetItem)
    (h : Along W AnyToken r₀ r r') :
    Follows Never (fun a s b s' => a = b ∧ Twins W s s' ∧ Closes r₀ s) (setItems start fuel items) r
      (setItems start' fuel' items) r' := by
  induction fuel generalizing fuel' items r r' with
  | zero => exact .refused rfl
  | succ fuel ih =>
    obtain ⟨fuel', rfl⟩ : ∃ n, fuel' = n + 1 := ⟨fuel' - 1, by omega⟩
    have hmore := Nat.le_of_succ_le_succ hfuel
    rw [setItems, setItems]
    refine (next_pulls h.twins).bind ?_
    rintro low s low' s' hlow
    cases hlow with
    | none => exact .refused rfl
    | @some u u' s s' hlow =>
      refine .ite ?_ (fun hend => ?_) fun _ => ?_
      · simp only [Bool.and_eq_true, decide_eq_true_eq, hlow.sign (k := ']') rfl]
      · obtain ⟨rfl, -⟩ : u = .char ']' ∧ _ := by simpa using hend
        obtain rfl := (hlow.sign rfl).mp rfl
        exact .pure ⟨rfl, hlow.closes h.passes⟩
      · refine (setItem_level hlow).bind ?_
        rintro item t _ t' ⟨rfl, ht⟩
        have ht := h.through ht fun _ _ => trivial
        refine (accept_level ht (by decide) trivial).bind ?_
        rintro hyphen v _ v' ⟨rfl, hv⟩
        refine .ite Iff.rfl (fun _ => ih hmore _ hv) fun _ => ?_
        refine (next_pulls hv.twins).bind ?_
        rintro high w high' w' hhigh
        cases hhigh with
        | none => exact .refused rfl
        | @some x x' w w' hhigh =>
          refine .ite (hhigh.sign rfl) (fun hend => ?_) fun _ => ?_
          · subst hend
            obtain rfl := (hhigh.sign rfl).mp rfl
            exact .pure ⟨rfl, hhigh.closes hv.passes⟩
          · refine (setItem_level hhigh).bind ?_
            rintro last y _ y' ⟨rfl, hy⟩
            have hy := hv.through hy fun _ _ => trivial
            dsimp only
            split
            · exact .check Iff.rfl ⟨_, rfl⟩ (ih hmore _ hy)
            · exact .refused rfl

theorem bracketed_level (h : Twins W r r') :
    Follows Never (fun a s b s' => a = b ∧ Twins W s s' ∧ Closes r s) bracketed r bracketed r' := by
  unfold bracketed
  refine Follows.get_bind ?_
  refine (accept_level (P := AnyToken) h.along (by decide) trivial).bind ?_
  rintro negated s _ s' ⟨rfl, hs⟩
  have hfuel : r.rest.length + 1 ≤ r'.rest.length + 1 := Nat.succ_le_succ h.rest.length_le
  exact (setItems_level _ _ hfuel [] hs).bind fun hq => .pure ⟨congrArg _ hq.1, hq.2⟩

/-! ## Repetition -/

theorem count_quiet (h : Along W NoOpening r₀ r r') (digits : List Char) :
    Quiet W r₀ (count digits) r (count digits) r' := by
  unfold count
  dsimp only
  exact .check Iff.rfl ⟨_, rfl⟩ (.check Iff.rfl ⟨_, rfl⟩ (.pure ⟨rfl, h⟩))

/-- What is behind the counts of a repetition. An ordinary brace gives everything back. -/
def countsEnd (start : Reader) (low high : List Char) : Read (Option (Nat × Option Nat)) := do
  if !(← accept '\x7d') then
    modify fun _ => start
    return none
  let least ← count low
  let most ← count high
  if high.isEmpty then return some (least, none)
  if most < least then failAt start.position .leastAboveMost
  return some (least, some most)

theorem countsEnd_quiet (h : Along W NoOpening r₀ r r') (hs : Along W NoOpening r₀ s s')
    (low high : List Char) : Quiet W r₀ (countsEnd r low high) s (countsEnd r' low high) s' := by
  unfold countsEnd
  refine (accept_level hs (by decide) (by rintro ⟨⟩)).bind ?_
  rintro closed t _ t' ⟨rfl, ht⟩
  refine .ite Iff.rfl (fun _ => ?_) fun _ => ?_
  · exact (Follows.modify (Q := fun _ s _ s' => Along W NoOpening r₀ s s') h).bind fun hq => .pure ⟨rfl, hq⟩
  refine (count_quiet ht low).bind ?_
  rintro least t _ t' ⟨rfl, ht⟩
  refine (count_quiet ht high).bind ?_
  rintro most t _ t' ⟨rfl, ht⟩
  exact .ite Iff.rfl (fun _ => .pure ⟨rfl, ht⟩) fun _ => .check Iff.rfl ⟨_, rfl⟩ (.pure ⟨rfl, ht⟩)

theorem counts_quiet (h : Along W NoOpening r₀ r r') (sign : Char) :
    Quiet W r₀ (counts sign) r (counts sign) r' := by
  unfold counts
  split
  · exact .pure ⟨rfl, h⟩
  · exact .pure ⟨rfl, h⟩
  · exact .pure ⟨rfl, h⟩
  · refine Follows.get_bind ?_
    simp only [peek, bind_assoc, pure_bind]
    refine Follows.get_bind (.ite (h.twins.rest.head?_char rfl) (fun _ => .pure ⟨rfl, h⟩) fun _ => ?_)
    refine (takeAll_level h ordinary_isDigit).bind ?_
    rintro low s _ s' ⟨rfl, hs⟩
    refine (accept_level hs (by decide) (by rintro ⟨⟩)).bind ?_
    rintro comma t _ t' ⟨rfl, ht⟩
    refine .ite Iff.rfl (fun _ => ?_) fun _ => countsEnd_quiet h ht low low
    refine (takeAll_level ht ordinary_isDigit).bind ?_
    rintro high v _ v' ⟨rfl, hv⟩
    exact countsEnd_quiet h hv low high

theorem greed_quiet (h : Along W NoOpening r₀ r r') : Quiet W r₀ greed r greed r' := by
  unfold greed
  refine (accept_level h (by decide) (by rintro ⟨⟩)).bind ?_
  rintro reluctant s _ s' ⟨rfl, hs⟩
  refine .ite Iff.rfl (fun _ => .pure ⟨rfl, hs⟩) fun _ => ?_
  refine (accept_level hs (by decide) (by rintro ⟨⟩)).bind ?_
  rintro possessive t _ t' ⟨rfl, ht⟩
  exact .ite Iff.rfl (fun _ => .pure ⟨rfl, ht⟩) fun _ => .pure ⟨rfl, ht⟩

theorem repetition_quiet (h : Along W NoOpening r₀ r r') (sign : Char) (items : List Regex) :
    Quiet W r₀ (repetition sign items) r (repetition sign items) r' := by
  unfold repetition
  refine Follows.get_bind ((counts_quiet h sign).bind ?_)
  rintro count s _ s' ⟨rfl, hs⟩
  cases count with
  | none => exact .pure ⟨rfl, hs⟩
  | some count =>
    cases items with
    | nil => exact .refused rfl
    | cons item before =>
      dsimp only [List.head?_cons]
      cases repetitionProblem? (some item) with
      | some problem => exact .refused rfl
      | none =>
        refine (greed_quiet hs).bind ?_
        rintro greed t _ t' ⟨rfl, ht⟩
        exact .pure ⟨rfl, ht⟩

end WordLint.Regex
