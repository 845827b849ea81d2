import Mathlib
import WordLint.Proofs.Regex.RespellingGroups

/-!
# Brackets in comments

A scan that knows of brackets only takes every `[` for the start of a set and every `]` for its end. In a
pattern that is read this is right but for one thing: a bracket in a comment means nothing. There are two kinds
of comments, groups `(?#…)` and lines of a verbose pattern from `#` on, and a pattern is verbose behind the
letter of that flag only.

`Balanced` says that the scan is right or is misled by a comment. Everything that is read keeps to it: what has
no opening bracket, a set up to its closing one, and a comment.
-/

namespace WordLint.Regex

variable {ts u v : List Token}

/-- Whether tokens end inside a set, by their brackets alone. -/
def openAfter (inside : Bool) (ts : List Token) : Bool :=
  ts.foldl (fun inside t => if t = .char '[' then true else if t = .char ']' then false else inside) inside

/-- Tokens without a bracket. -/
def NoBracket (ts : List Token) : Prop :=
  ∀ t ∈ ts, t ≠ .char '[' ∧ t ≠ .char ']'

theorem openAfter_append (inside : Bool) (u v : List Token) :
    openAfter inside (u ++ v) = openAfter (openAfter inside u) v :=
  List.foldl_append

/-- Tokens end inside a set when their last bracket is an opening one, or they are inside it all the time. -/
theorem openAfter_eq_true_iff (inside : Bool) (ts : List Token) : openAfter inside ts = true ↔
    (inside = true ∧ NoBracket ts) ∨ ∃ u v, ts = u ++ .char '[' :: v ∧ NoBracket v := by
  induction ts generalizing inside with
  | nil => simp [openAfter, NoBracket]
  | cons t ts ih =>
    have hmore : (∃ u v, t :: ts = u ++ .char '[' :: v ∧ NoBracket v) ↔
        (t = .char '[' ∧ NoBracket ts) ∨ ∃ u v, ts = u ++ .char '[' :: v ∧ NoBracket v := by
      constructor
      · rintro ⟨_ | ⟨x, u⟩, v, hts, hv⟩
        · cases hts
          exact Or.inl ⟨rfl, hv⟩
        · cases hts
          exact Or.inr ⟨u, v, rfl, hv⟩
      · rintro (⟨rfl, hv⟩ | ⟨u, v, rfl, hv⟩)
        · exact ⟨[], ts, rfl, hv⟩
        · exact ⟨t :: u, v, rfl, hv⟩
    have hnone : NoBracket (t :: ts) ↔ (t ≠ .char '[' ∧ t ≠ .char ']') ∧ NoBracket ts := List.forall_mem_cons
    rw [hmore, hnone, openAfter, List.foldl_cons, ← openAfter, ih]
    by_cases hopen : t = .char '['
    · simp [hopen]
    · by_cases hclose : t = .char ']'
      · simp [hclose]
      · simp [hopen, hclose]

theorem openAfter_closed (inside : Bool) (ts : List Token) : openAfter inside (ts ++ [.char ']']) = false := by
  rw [openAfter_append]
  rfl

/-! ## Comments -/

theorem Switches.append (h : Switches u) (v : List Token) : Switches (u ++ v) := by
  obtain ⟨cs, w, rfl, hcs, hx⟩ := h
  exact ⟨cs, w ++ v, List.append_assoc _ _ _, hcs, hx⟩

/-- Some tokens hold a group that sets the flag which makes a pattern verbose. -/
def HasSwitch (ts : List Token) : Prop :=
  ∃ u v, ts = u ++ .char '(' :: .char '?' :: v ∧ Switches v

theorem HasSwitch.append (h : HasSwitch u) (v : List Token) : HasSwitch (u ++ v) := by
  obtain ⟨x, y, rfl, hy⟩ := h
  exact ⟨x, y ++ v, by rw [List.append_assoc]; rfl, hy.append v⟩

theorem HasSwitch.mem (h : HasSwitch ts) : .char 'x' ∈ ts := by
  obtain ⟨u, _, rfl, cs, w, rfl, -, hx⟩ := h
  simp [hx]

/-- Behind these tokens a comment goes on: a group, or a line of a verbose pattern. -/
def InComment (ts : List Token) : Prop :=
  (∃ u body, ts = u ++ .char '(' :: .char '?' :: .char '#' :: body ∧ .char ')' ∉ body) ∨
    ∃ u body, ts = u ++ .char '#' :: body ∧ HasSwitch u ∧ .char '\n' ∉ body

/-- The last bracket of a pattern is an opening one, and it stands in a comment. -/
def OpensInComment (ts : List Token) : Prop :=
  ∃ u v, ts = u ++ .char '[' :: v ∧ NoBracket v ∧ InComment u

theorem OpensInComment.openAfter (h : OpensInComment ts) (inside : Bool) : openAfter inside ts = true := by
  obtain ⟨u, v, hts, hv, -⟩ := h
  exact (openAfter_eq_true_iff inside ts).mpr (Or.inr ⟨u, v, hts, hv⟩)

/-- If these tokens end inside a set by their brackets, it is a comment that has opened it. -/
def Balanced (ts : List Token) : Prop :=
  openAfter false ts = true → OpensInComment ts

theorem Balanced.nil : Balanced [] :=
  fun h => nomatch h

/-- These tokens end inside a set: their last bracket is an opening one, and not in a comment. -/
def InSet (ts : List Token) : Prop :=
  openAfter false ts = true ∧ ¬ OpensInComment ts

theorem Balanced.not_inSet (h : Balanced ts) : ¬ InSet ts :=
  fun hopen => hopen.2 (h hopen.1)

/-- Brackets may only open in comments. -/
theorem Balanced.append (hu : Balanced u) (hv : ∀ x y, v = x ++ .char '[' :: y → InComment (u ++ x)) :
    Balanced (u ++ v) := by
  intro hopen
  rw [openAfter_append, openAfter_eq_true_iff] at hopen
  rcases hopen with ⟨hinside, hnone⟩ | ⟨x, y, rfl, hnone⟩
  · obtain ⟨x, y, rfl, hy, hcomment⟩ := hu hinside
    refine ⟨x, y ++ v, List.append_assoc _ _ _, fun t ht => ?_, hcomment⟩
    exact (List.mem_append.mp ht).elim (hy t) (hnone t)
  · exact ⟨u ++ x, y, (List.append_assoc _ _ _).symm, hnone, hv x y rfl⟩

/-- What has no opening bracket. -/
theorem Balanced.quiet (hu : Balanced u) (hv : ∀ t ∈ v, NoOpening t) : Balanced (u ++ v) := by
  refine hu.append fun x y hxy => absurd rfl (hv (.char '[') ?_)
  rw [hxy]
  exact List.mem_append_right _ List.mem_cons_self

/-- A set up to its closing bracket. -/
theorem Balanced.closed (ts : List Token) : Balanced (ts ++ [.char ']']) := by
  intro hopen
  rw [openAfter_closed] at hopen
  cases hopen

/-- A comment from its sign on, as far as its end. -/
theorem Balanced.comment {k : Char} (hu : Balanced u)
    (hstart : ∀ body, .char k ∉ body → InComment (u ++ .char '#' :: body)) (hv : .char k ∉ v) :
    Balanced (u ++ .char '#' :: v) := by
  refine hu.append fun x y hxy => ?_
  cases x with
  | nil => cases hxy
  | cons t x =>
    obtain ⟨rfl, rfl⟩ := List.cons.inj hxy
    exact hstart x fun hmem => hv (List.mem_append_left _ hmem)

end WordLint.Regex
