import Mathlib
import WordLint.Regex.Search

/-!
# Matching goes forward

An expression hands its continuation only points that are not before the point where it was tried, and
none behind the end of the text when it was tried inside (`run_forward`). Looking behind moves the
position back and puts it back where it was, so it is no exception.

**The spans of a text go from left to right** (`spans_ordered`): each span ends where it starts or later,
inside the text, and before the start of the next one. The scan of `Compiled.spansFrom` keeps this from
one search to the next.
-/

namespace WordLint.Regex

/-! ## One attempt -/

/-- One point is not before another, and inside the text when the other one is. -/
def Ahead (text : Array Char) (p q : Point) : Prop :=
  p.position ≤ q.position ∧ (p.position ≤ text.size → q.position ≤ text.size)

variable {text : Array Char} {p q r : Point}

theorem Ahead.of_position_eq (h : q.position = p.position) : Ahead text p q :=
  ⟨Nat.le_of_eq h.symm, fun hp => h ▸ hp⟩

theorem Ahead.refl (text : Array Char) (p : Point) : Ahead text p p :=
  .of_position_eq rfl

theorem Ahead.trans (h : Ahead text p q) (h' : Ahead text q r) : Ahead text p r :=
  ⟨Nat.le_trans h.1 h'.1, fun hp => h'.2 (h.2 hp)⟩

/-- An attempt that succeeds has handed its continuation a point ahead. -/
def Forward (text : Array Char) (attempt : Attempt) : Prop :=
  ∀ (p : Point) (k : Point → Option Point) (q : Point), attempt p k = some q →
    ∃ p', Ahead text p p' ∧ k p' = some q

theorem eq_some_of_orElse {a b : Option Point} (h : (a <|> b) = some q) : a = some q ∨ b = some q := by
  cases a with
  | none => exact Or.inr h
  | some _ => exact Or.inl h

/-- One attempt behind another. -/
theorem Forward.andThen {first second : Attempt} (h₁ : Forward text first)
    (h₂ : Forward text second) : Forward text fun p k => first p fun p' => second p' k := by
  intro p k q h
  obtain ⟨p₁, hp₁, hsecond⟩ := h₁ p _ q h
  obtain ⟨p₂, hp₂, hk⟩ := h₂ p₁ k q hsecond
  exact ⟨p₂, hp₁.trans hp₂, hk⟩

/-- Consuming one character goes one character ahead. -/
theorem step_forward (text : Array Char) (test : Char → Bool) : Forward text (step text test) := by
  intro p k q h
  unfold step at h
  split at h
  · rename_i c hc
    split at h
    · have hin : p.position < text.size := (Array.getElem?_eq_some_iff.mp hc).1
      exact ⟨p.advance 1, ⟨Nat.le_add_right _ _, fun _ => hin⟩, h⟩
    · cases h
  · cases h

/-! ## Repetition -/

theorem greedyRounds_forward {body : Attempt} (hbody : Forward text body) (least : Nat)
    (most : Option Nat) : ∀ fuel count last,
      Forward text (greedyRounds body least most fuel count last) := by
  intro fuel
  induction fuel with
  | zero => exact fun count last p k q h => ⟨p, .refl text p, h⟩
  | succ fuel ih =>
    intro count last p k q h
    unfold greedyRounds at h
    split at h
    · exact hbody.andThen (ih (count + 1) last) p k q h
    · split at h
      · rcases eq_some_of_orElse h with h | h
        · exact hbody.andThen (ih (count + 1) _) p k q h
        · exact ⟨p, .refl text p, h⟩
      · exact ⟨p, .refl text p, h⟩

theorem reluctantRounds_forward {body : Attempt} (hbody : Forward text body) (least : Nat)
    (most : Option Nat) : ∀ fuel count last,
      Forward text (reluctantRounds body least most fuel count last) := by
  intro fuel
  induction fuel with
  | zero => exact fun count last p k q h => ⟨p, .refl text p, h⟩
  | succ fuel ih =>
    intro count last p k q h
    unfold reluctantRounds at h
    split at h
    · exact hbody.andThen (ih (count + 1) last) p k q h
    · rcases eq_some_of_orElse h with h | h
      · exact ⟨p, .refl text p, h⟩
      · split at h
        · exact hbody.andThen (ih (count + 1) _) p k q h
        · cases h

theorem possessiveRounds_ahead {body : Attempt} (hbody : Forward text body) (least : Nat)
    (most : Option Nat) : ∀ fuel count last p q,
      possessiveRounds body least most fuel count last p = some q → Ahead text p q := by
  intro fuel
  induction fuel with
  | zero =>
    intro count last p q h
    cases h
    exact .refl text p
  | succ fuel ih =>
    intro count last p q h
    have hround : ∀ p₁, body p some = some p₁ → Ahead text p p₁ := by
      intro p₁ h
      obtain ⟨p', hp, heq⟩ := hbody p some p₁ h
      cases heq
      exact hp
    unfold possessiveRounds at h
    split at h
    · split at h
      · rename_i p₁ hp₁
        exact (hround p₁ hp₁).trans (ih _ _ _ _ h)
      · cases h
    · split at h
      · split at h
        · rename_i p₁ hp₁
          exact (hround p₁ hp₁).trans (ih _ _ _ _ h)
        · cases h
          exact .refl text p
      · cases h
        exact .refl text p

/-! ## Expressions -/

/-- A repeated part of the text ends inside the text. -/
theorem repeats_inside {mode : Mode} : ∀ (n position start : Nat),
    repeats text mode position start n = true → position ≤ text.size → position + n ≤ text.size := by
  intro n
  induction n with
  | zero => exact fun position start _ hin => hin
  | succ n ih =>
    intro position start h _
    unfold repeats at h
    rw [Bool.and_eq_true] at h
    obtain ⟨hsame, hmore⟩ := h
    split at hsame
    · rename_i a b ha _
      have hlt : position < text.size := (Array.getElem?_eq_some_iff.mp ha).1
      have hle := ih (position + 1) (start + 1) hmore hlt
      omega
    · cases hsame

/-- **Matching goes forward**, one case for each kind of expression. -/
theorem run_forward (text : Array Char) (e : Regex) : ∀ mode, Forward text (e.run text mode) := by
  induction e with
  | empty => exact fun mode p k q h => ⟨p, .refl text p, h⟩
  | any => exact fun mode => step_forward text _
  | char code => exact fun mode => step_forward text _
  | set negated items => exact fun mode => step_forward text _
  | anchor a =>
    intro mode p k q h
    unfold run at h
    split at h
    · exact ⟨p, .refl text p, h⟩
    · cases h
  | cat first second ih₁ ih₂ =>
    intro mode
    exact (ih₁ mode).andThen (ih₂ mode)
  | alt first second ih₁ ih₂ =>
    intro mode p k q h
    rcases eq_some_of_orElse h with h | h
    · exact ih₁ mode p k q h
    · exact ih₂ mode p k q h
  | group index body ih =>
    intro mode p k q h
    obtain ⟨p₁, h₁, hk⟩ := ih mode (p.openGroup index) _ q h
    exact ⟨p₁.closeGroup index, h₁, hk⟩
  | «scoped» add remove body ih => exact fun mode => ih (mode.change add remove)
  | repeated greed least most body ih =>
    intro mode p k q h
    cases greed with
    | greedy => exact greedyRounds_forward (ih mode) least most _ _ _ p k q h
    | reluctant => exact reluctantRounds_forward (ih mode) least most _ _ _ p k q h
    | possessive =>
      obtain ⟨p', hrounds, hk⟩ := Option.bind_eq_some_iff.mp h
      exact ⟨p', possessiveRounds_ahead (ih mode) least most _ _ _ p p' hrounds, hk⟩
  | look direction negated body ih =>
    intro mode p k q h
    unfold run at h
    dsimp only at h
    split at h
    · rename_i found _
      split at h
      · cases h
      · exact ⟨{ found with position := p.position }, .of_position_eq rfl, h⟩
    · split at h
      · exact ⟨p, .refl text p, h⟩
      · cases h
  | atomic body ih =>
    intro mode p k q h
    obtain ⟨p₁, hbody, hk⟩ := Option.bind_eq_some_iff.mp h
    obtain ⟨p', hp, heq⟩ := ih mode p some p₁ hbody
    cases heq
    exact ⟨p₁, hp, hk⟩
  | backref index =>
    intro mode p k q h
    unfold run at h
    split at h
    · rename_i s e _
      split at h
      · rename_i hrepeats
        exact ⟨p.advance (e - s), ⟨Nat.le_add_right _ _, repeats_inside _ _ _ hrepeats⟩, h⟩
      · cases h
    · cases h
  | conditional index yes no ih₁ ih₂ =>
    intro mode p k q h
    unfold run at h
    split at h
    · exact ih₁ mode p k q h
    · exact ih₂ mode p k q h

/-! ## The scan -/

/-- A match ends where it starts or later, and inside the text. -/
theorem matchEnd?_ahead {e : Compiled} {start stop : Nat} {nonempty : Bool}
    (h : e.matchEnd? text start nonempty = some stop) :
    start ≤ stop ∧ (start ≤ text.size → stop ≤ text.size) := by
  unfold Compiled.matchEnd? at h
  obtain ⟨q, hrun, rfl⟩ := Option.map_eq_some_iff.mp h
  obtain ⟨p', hp, haccept⟩ := run_forward text e.regex e.mode _ _ q hrun
  split at haccept
  · cases haccept
  · cases haccept
    exact hp

/-- A search finds a span that starts at one of the positions it looks at. -/
theorem firstFrom_ahead {e : Compiled} {span : Nat × Nat} : ∀ (count start : Nat) (nonempty : Bool),
    e.firstFrom text count start nonempty = some span →
      start ≤ span.1 ∧ span.1 < start + count ∧ span.1 ≤ span.2 ∧
        (span.1 ≤ text.size → span.2 ≤ text.size) := by
  intro count
  induction count with
  | zero => exact fun start nonempty h => nomatch h
  | succ count ih =>
    intro start nonempty h
    unfold Compiled.firstFrom at h
    split at h
    · rename_i stop hstop
      cases h
      have hahead := matchEnd?_ahead hstop
      exact ⟨Nat.le_refl _, by omega, hahead⟩
    · obtain ⟨hstart, hcount, hahead⟩ := ih (start + 1) false h
      exact ⟨by omega, by omega, hahead⟩

/-- What a scan from a position keeps: spans do not start before it, and go from left to right. -/
theorem spansFrom_ordered (e : Compiled) : ∀ (fuel start : Nat) (nonempty : Bool),
    (∀ span ∈ e.spansFrom text fuel start nonempty,
      start ≤ span.1 ∧ span.1 ≤ span.2 ∧ span.2 ≤ text.size) ∧
      (e.spansFrom text fuel start nonempty).Pairwise (fun a b => a.2 ≤ b.1) := by
  intro fuel
  induction fuel with
  | zero => exact fun start nonempty => ⟨fun span hmem => (nomatch hmem), List.Pairwise.nil⟩
  | succ fuel ih =>
    intro start nonempty
    unfold Compiled.spansFrom
    split
    · exact ⟨fun span hmem => (nomatch hmem), List.Pairwise.nil⟩
    · rename_i s stop hfirst
      obtain ⟨hstart, hcount, hle, hin⟩ := firstFrom_ahead _ _ _ hfirst
      obtain ⟨hrest, hpairs⟩ := ih stop (s == stop)
      dsimp only at hstart hcount hle hin
      have hstop : stop ≤ text.size := hin (by omega)
      refine ⟨?_, List.Pairwise.cons (fun span hmem => (hrest span hmem).1) hpairs⟩
      intro span hmem
      rcases List.mem_cons.mp hmem with rfl | hmem
      · exact ⟨hstart, hle, hstop⟩
      · obtain ⟨hfrom, hspan⟩ := hrest span hmem
        exact ⟨by omega, hspan⟩

/-- **The spans of a text go from left to right**: none ends before it starts or behind the text, and none
starts before the one before it ends. -/
theorem spans_ordered (e : Compiled) (text : Array Char) :
    (∀ span ∈ e.spans text, span.1 ≤ span.2 ∧ span.2 ≤ text.size) ∧
      (e.spans text).Pairwise (fun a b => a.2 ≤ b.1) := by
  obtain ⟨hspans, hpairs⟩ := @spansFrom_ordered text e (2 * text.size + 3) 0 false
  exact ⟨fun span hmem => (hspans span hmem).2, hpairs⟩

end WordLint.Regex
