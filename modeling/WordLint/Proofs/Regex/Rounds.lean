import WordLint.Proofs.Regex.Forward

/-!
# The rounds of a repetition

An expression asks its continuation only about points that are ahead of the one where it is tried, so two
continuations that agree on these come to the same (`run_local`).

A repetition comes to its end by itself. Behind the least count a round is started further on than the one before,
or it is the last, and so no more rounds follow than there are positions left (`roundsLeft`).

**The law** (`run_repeated`): the bound that `Regex.run` sets on the rounds is never reached, and a repetition
matches the same with every higher one.
-/

namespace WordLint.Regex

variable {text : Array Char}

/-! ## Points ahead -/

/-- An attempt asks its continuation only about points ahead. -/
def Local (text : Array Char) (attempt : Attempt) : Prop :=
  ∀ (p : Point) (k k' : Point → Option Point),
    (∀ q, Ahead text p q → k q = k' q) → attempt p k = attempt p k'

theorem Local.andThen {first second : Attempt} (h₁ : Local text first) (h₂ : Local text second) :
    Local text fun p k => first p fun p' => second p' k := by
  intro p k k' hk
  refine h₁ p _ _ fun p' hp' => ?_
  exact h₂ p' k k' fun q hq => hk q (hp'.trans hq)

theorem step_local (text : Array Char) (test : Char → Bool) : Local text (step text test) := by
  intro p k k' hk
  unfold step
  split
  · rename_i c hc
    have hin : p.position < text.size := (Array.getElem?_eq_some_iff.mp hc).1
    rw [hk (p.advance 1) ⟨Nat.le_add_right _ _, fun _ => hin⟩]
  · rfl

theorem greedyRounds_local {body : Attempt} (hbody : Local text body) (least : Nat) (most : Option Nat) :
    ∀ fuel count last, Local text (greedyRounds body least most fuel count last) := by
  intro fuel
  induction fuel with
  | zero => exact fun count last p k k' hk => hk p (.refl text p)
  | succ fuel ih =>
    intro count last p k k' hk
    have hround : ∀ last', (body p fun q => greedyRounds body least most fuel (count + 1) last' q k) =
        body p fun q => greedyRounds body least most fuel (count + 1) last' q k' :=
      fun last' => hbody.andThen (ih (count + 1) last') p k k' hk
    unfold greedyRounds
    rw [hround, hround, hk p (.refl text p)]

theorem reluctantRounds_local {body : Attempt} (hbody : Local text body) (least : Nat) (most : Option Nat) :
    ∀ fuel count last, Local text (reluctantRounds body least most fuel count last) := by
  intro fuel
  induction fuel with
  | zero => exact fun count last p k k' hk => hk p (.refl text p)
  | succ fuel ih =>
    intro count last p k k' hk
    have hround : ∀ last', (body p fun q => reluctantRounds body least most fuel (count + 1) last' q k) =
        body p fun q => reluctantRounds body least most fuel (count + 1) last' q k' :=
      fun last' => hbody.andThen (ih (count + 1) last') p k k' hk
    unfold reluctantRounds
    rw [hround, hround, hk p (.refl text p)]

/-- What is settled before the continuation is asked: two continuations that agree ahead come to the same. -/
theorem bind_local {found : Option Point} {p : Point} {k k' : Point → Option Point}
    (hfound : ∀ q, found = some q → Ahead text p q) (hk : ∀ q, Ahead text p q → k q = k' q) :
    found.bind k = found.bind k' := by
  cases found with
  | none => rfl
  | some q => exact hk q (hfound q rfl)

theorem ahead_of_run_some {e : Regex} {mode : Mode} {p q : Point} (h : e.run text mode p some = some q) :
    Ahead text p q := by
  obtain ⟨p', hp', heq⟩ := run_forward text e mode p some q h
  cases heq
  exact hp'

/-- **An expression asks its continuation only about points ahead**, one case for each kind of expression. -/
theorem run_local (text : Array Char) (e : Regex) : ∀ mode, Local text (e.run text mode) := by
  induction e with
  | empty => exact fun mode p k k' hk => hk p (.refl text p)
  | any => exact fun mode => step_local text _
  | char code => exact fun mode => step_local text _
  | set negated items => exact fun mode => step_local text _
  | anchor a =>
    intro mode p k k' hk
    unfold run
    rw [hk p (.refl text p)]
  | cat first second ih₁ ih₂ =>
    intro mode
    exact (ih₁ mode).andThen (ih₂ mode)
  | alt first second ih₁ ih₂ =>
    intro mode p k k' hk
    unfold run
    rw [ih₁ mode p k k' hk, ih₂ mode p k k' hk]
  | group index body ih =>
    intro mode p k k' hk
    exact ih mode (p.openGroup index) _ _ fun q hq => hk (q.closeGroup index) hq
  | «scoped» add remove body ih => exact fun mode => ih (mode.change add remove)
  | repeated greed least most body ih =>
    intro mode p k k' hk
    cases greed with
    | greedy => exact greedyRounds_local (ih mode) least most _ _ _ p k k' hk
    | reluctant => exact reluctantRounds_local (ih mode) least most _ _ _ p k k' hk
    | possessive =>
      exact bind_local (possessiveRounds_ahead (run_forward text body mode) least most _ _ _ p) hk
  | look direction negated body ih =>
    intro mode p k k' hk
    unfold run
    dsimp only
    rw [hk p (.refl text p)]
    split
    · rename_i found _
      rw [hk ⟨p.position, found.opened, found.closed⟩ (.of_position_eq rfl)]
    · rfl
  | atomic body ih =>
    intro mode p k k' hk
    exact bind_local (fun q => ahead_of_run_some) hk
  | backref index =>
    intro mode p k k' hk
    unfold run
    split
    · rename_i s e _
      split
      · rename_i hrepeats
        exact hk _ ⟨Nat.le_add_right _ _, repeats_inside _ _ _ hrepeats⟩
      · rfl
    · rfl
  | conditional index yes no ih₁ ih₂ =>
    intro mode p k k' hk
    unfold run
    rw [ih₁ mode p k k' hk, ih₂ mode p k k' hk]

/-! ## Rounds that are left -/

section Rounds

variable {body : Attempt} {least : Nat} {most : Option Nat}

/-- No more rounds than this can follow behind `count` of them, the last of which was started at `last`. -/
def roundsLeft (text : Array Char) (least count : Nat) (last : Option Nat) (p : Point) : Nat :=
  (least - count) + if least ≤ count ∧ last = some p.position then 0 else text.size + 1 - p.position

/-- At most as many rounds are left as there are positions, behind those that have to be made. -/
theorem roundsLeft_le (text : Array Char) (least count : Nat) (last : Option Nat) (p : Point) :
    roundsLeft text least count last p ≤ (least - count) + (text.size + 1 - p.position) := by
  unfold roundsLeft
  split <;> omega

/-- A round that has to be made leaves fewer. -/
theorem roundsLeft_required {count : Nat} {last : Option Nat} {p q : Point} (hcount : count < least)
    (hq : Ahead text p q) :
    roundsLeft text least (count + 1) last q < roundsLeft text least count last p := by
  have hle := hq.1
  have hleft := roundsLeft_le text least (count + 1) last q
  have hmust : ¬ (least ≤ count ∧ last = some p.position) := fun h => by omega
  rw [roundsLeft.eq_def text least count, if_neg hmust]
  omega

/-- A round that may be made is started further on than the one before, and leaves fewer. -/
theorem roundsLeft_further {count : Nat} {last : Option Nat} {p q : Point} (hcount : ¬ count < least)
    (hlast : last ≠ some p.position) (hin : p.position ≤ text.size) (hq : Ahead text p q) :
    roundsLeft text least (count + 1) (some p.position) q < roundsLeft text least count last p := by
  have hle := hq.1
  have hmay : ¬ (least ≤ count ∧ last = some p.position) := fun h => hlast h.2
  rw [roundsLeft.eq_def text least count, if_neg hmay]
  rcases Nat.eq_or_lt_of_le hle with heq | hlt
  · have hstays : least ≤ count + 1 ∧ some p.position = some q.position := ⟨by omega, by rw [heq]⟩
    rw [roundsLeft, if_pos hstays]
    omega
  · have hleft := roundsLeft_le text least (count + 1) (some p.position) q
    omega

/-- When none is left, the least count is reached and the last round has not moved. -/
theorem of_roundsLeft_eq_zero {count : Nat} {last : Option Nat} {p : Point} (hin : p.position ≤ text.size)
    (h : roundsLeft text least count last p = 0) : ¬ count < least ∧ last = some p.position := by
  unfold roundsLeft at h
  split at h
  · rename_i hdone
    exact ⟨by omega, hdone.2⟩
  · omega

/-- One more than enough rounds come to the same. -/
theorem greedyRounds_succ (hbody : Local text body) : ∀ fuel count last p k, p.position ≤ text.size →
    roundsLeft text least count last p ≤ fuel →
      greedyRounds body least most (fuel + 1) count last p k = greedyRounds body least most fuel count last p k := by
  intro fuel
  induction fuel with
  | zero =>
    intro count last p k hin hfuel
    obtain ⟨hcount, rfl⟩ := of_roundsLeft_eq_zero hin (Nat.le_zero.mp hfuel)
    unfold greedyRounds
    simp [hcount]
  | succ fuel ih =>
    intro count last p k hin hfuel
    rw [greedyRounds, greedyRounds]
    split
    · rename_i hcount
      refine hbody p _ _ fun q hq => ih _ _ q k (hq.2 hin) ?_
      exact Nat.le_of_lt_succ (Nat.lt_of_lt_of_le (roundsLeft_required hcount hq) hfuel)
    · rename_i hcount
      split
      · rename_i hallowed
        have hlast : last ≠ some p.position := by
          simpa using (Bool.and_eq_true_iff.mp hallowed).2
        refine congrArg (· <|> k p) (hbody p _ _ fun q hq => ih _ _ q k (hq.2 hin) ?_)
        exact Nat.le_of_lt_succ (Nat.lt_of_lt_of_le (roundsLeft_further hcount hlast hin hq) hfuel)
      · rfl

theorem reluctantRounds_succ (hbody : Local text body) : ∀ fuel count last p k, p.position ≤ text.size →
    roundsLeft text least count last p ≤ fuel →
      reluctantRounds body least most (fuel + 1) count last p k =
        reluctantRounds body least most fuel count last p k := by
  intro fuel
  induction fuel with
  | zero =>
    intro count last p k hin hfuel
    obtain ⟨hcount, rfl⟩ := of_roundsLeft_eq_zero hin (Nat.le_zero.mp hfuel)
    unfold reluctantRounds
    simp [hcount]
  | succ fuel ih =>
    intro count last p k hin hfuel
    rw [reluctantRounds, reluctantRounds]
    split
    · rename_i hcount
      refine hbody p _ _ fun q hq => ih _ _ q k (hq.2 hin) ?_
      exact Nat.le_of_lt_succ (Nat.lt_of_lt_of_le (roundsLeft_required hcount hq) hfuel)
    · rename_i hcount
      refine congrArg (k p <|> ·) ?_
      split
      · rename_i hallowed
        have hlast : last ≠ some p.position := by
          simpa using (Bool.and_eq_true_iff.mp hallowed).2
        refine hbody p _ _ fun q hq => ih _ _ q k (hq.2 hin) ?_
        exact Nat.le_of_lt_succ (Nat.lt_of_lt_of_le (roundsLeft_further hcount hlast hin hq) hfuel)
      · rfl

theorem possessiveRounds_succ (hbody : ∀ p q, body p some = some q → Ahead text p q) :
    ∀ fuel count last p, p.position ≤ text.size → roundsLeft text least count last p ≤ fuel →
      possessiveRounds body least most (fuel + 1) count last p =
        possessiveRounds body least most fuel count last p := by
  intro fuel
  induction fuel with
  | zero =>
    intro count last p hin hfuel
    obtain ⟨hcount, rfl⟩ := of_roundsLeft_eq_zero hin (Nat.le_zero.mp hfuel)
    unfold possessiveRounds
    simp [hcount]
  | succ fuel ih =>
    intro count last p hin hfuel
    rw [possessiveRounds, possessiveRounds]
    cases hround : body p some with
    | none => rfl
    | some q =>
      have hq := hbody p q hround
      dsimp only
      split
      · rename_i hcount
        refine ih _ _ q (hq.2 hin) ?_
        exact Nat.le_of_lt_succ (Nat.lt_of_lt_of_le (roundsLeft_required hcount hq) hfuel)
      · rename_i hcount
        split
        · rename_i hallowed
          have hlast : last ≠ some p.position := by
            simpa using (Bool.and_eq_true_iff.mp hallowed).2
          refine ih _ _ q (hq.2 hin) ?_
          exact Nat.le_of_lt_succ (Nat.lt_of_lt_of_le (roundsLeft_further hcount hlast hin hq) hfuel)
        · rfl

end Rounds

/-! ## The law -/

/-- What does not change from a number on is the same for all that are not below it. -/
theorem eq_of_succ {α : Type} {f : Nat → α} {enough a b : Nat} (h : ∀ n, enough ≤ n → f (n + 1) = f n)
    (ha : enough ≤ a) (hb : enough ≤ b) : f a = f b := by
  have hsame : ∀ n, enough ≤ n → f n = f enough := by
    intro n hn
    induction n, hn using Nat.le_induction with
    | base => rfl
    | succ n hn ih => exact (h n hn).trans ih
  exact (hsame a ha).trans (hsame b hb).symm

/-- **The bound on the rounds of a repetition is never reached**: every bound that is high enough comes to the same,
wherever in the text the repetition is tried. -/
theorem run_repeated (greed : Greed) (least : Nat) (most : Option Nat) (e : Regex) (mode : Mode) {p : Point}
    (hin : p.position ≤ text.size) {fuel : Nat} (hfuel : least + text.size + 1 ≤ fuel)
    (k : Point → Option Point) :
    (Regex.repeated greed least most e).run text mode p k =
      match greed with
      | .greedy => greedyRounds (e.run text mode) least most fuel 0 none p k
      | .reluctant => reluctantRounds (e.run text mode) least most fuel 0 none p k
      | .possessive => (possessiveRounds (e.run text mode) least most fuel 0 none p).bind k := by
  have hleft : roundsLeft text least 0 none p ≤ least + text.size + 1 := by
    have hle := roundsLeft_le text least 0 none p
    omega
  have hown : least + text.size + 1 ≤ least + text.size + 2 := Nat.le_succ _
  cases greed with
  | greedy =>
    refine @eq_of_succ _ (fun n => greedyRounds (e.run text mode) least most n 0 none p k) _ _ _ ?_ hown hfuel
    exact fun n hn => greedyRounds_succ (run_local text e mode) n 0 none p k hin (hleft.trans hn)
  | reluctant =>
    refine @eq_of_succ _ (fun n => reluctantRounds (e.run text mode) least most n 0 none p k) _ _ _ ?_ hown hfuel
    exact fun n hn => reluctantRounds_succ (run_local text e mode) n 0 none p k hin (hleft.trans hn)
  | possessive =>
    refine @eq_of_succ _ (fun n => (possessiveRounds (e.run text mode) least most n 0 none p).bind k) _ _ _ ?_
      hown hfuel
    exact fun n hn => congrArg (·.bind k)
      (possessiveRounds_succ (fun p q => ahead_of_run_some) n 0 none p hin (hleft.trans hn))

end WordLint.Regex
