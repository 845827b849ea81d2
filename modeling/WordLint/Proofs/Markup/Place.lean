import Mathlib
import WordLint.Markup.Document

/-!
# Places and positions

A place is a line and a column; a position counts the characters before it. Lines are separated by line
feeds and by nothing else, so the places of a document are its positions in another notation.

`lineStarts` lists the positions at which lines start, and `position?` reads a line and a column off
that list. **The law** (`position?_reached`): the place that is reached behind the front of a document
reads back as the length of that front. In particular its line is one of the document's.
-/

namespace WordLint.Markup

/-- The position of a line and a column, both counted from 1, when the text has that line. -/
def position? (cs : List Char) (line col : Int) : Option Nat :=
  if 1 ≤ line ∧ 1 ≤ col then (lineStarts cs)[(line - 1).toNat]?.map (· + (col - 1).toNat) else none

/-- The place behind some characters. -/
def Place.reached (cs : List Char) : Place :=
  cs.foldl Place.after .start

@[simp]
theorem Place.reached_append (cs ds : List Char) :
    Place.reached (cs ++ ds) = ds.foldl Place.after (Place.reached cs) := by
  unfold Place.reached
  exact List.foldl_append

theorem breaks_append (start : Nat) (cs ds : List Char) :
    breaks start (cs ++ ds) = breaks start cs ++ breaks (start + cs.length) ds := by
  unfold breaks
  rw [List.zipIdx_append, List.filterMap_append, Nat.add_comm start]

theorem breaks_singleton (start : Nat) (c : Char) :
    breaks start [c] = if c = '\n' then [start + 1] else [] := by
  unfold breaks
  by_cases h : c = '\n' <;> simp [h]

/-- Every line feed starts a line. -/
theorem length_lineStarts (cs : List Char) : (lineStarts cs).length = cs.count '\n' + 1 := by
  have h : ∀ start, (breaks start cs).length = cs.count '\n' := by
    induction cs with
    | nil => intro start; rfl
    | cons c rest ih =>
      intro start
      rw [← List.singleton_append, breaks_append, List.length_append, ih, breaks_singleton,
        List.count_append]
      by_cases hc : c = '\n' <;> simp [hc]
  unfold lineStarts
  rw [List.length_cons, h]

/-- A place knows how many lines have been left, and how far the last one has been read. The last entry
of `lineStarts` is where that line starts. -/
theorem reached_spec (cs : List Char) :
    (Place.reached cs).line = cs.count '\n' + 1 ∧ 1 ≤ (Place.reached cs).col ∧
      ∃ start, (lineStarts cs)[cs.count '\n']? = some start ∧
        start + ((Place.reached cs).col - 1) = cs.length := by
  -- from the back, because the fold takes its last step at the last character
  induction cs using List.reverseRecOn with
  | nil => exact ⟨rfl, Nat.le_refl 1, 0, rfl, rfl⟩
  | append_singleton front c ih =>
    obtain ⟨hline, hcol, start, hstart, hlength⟩ := ih
    have hsize := length_lineStarts front
    have hstarts : lineStarts (front ++ [c]) =
        lineStarts front ++ if c = '\n' then [front.length + 1] else [] := by
      unfold lineStarts
      rw [breaks_append, breaks_singleton, Nat.zero_add, List.cons_append]
    rw [Place.reached_append, List.foldl_cons, List.foldl_nil, hstarts, List.count_append,
      List.length_append]
    by_cases hc : c = '\n'
    · subst hc
      refine ⟨by simp [Place.after, hline], by simp [Place.after], front.length + 1, ?_, ?_⟩
      · rw [if_pos rfl, List.getElem?_append_right (by rw [hsize]; simp)]
        simp [hsize]
      · simp [Place.after]
    · refine ⟨by simp [Place.after, hc, hline], by simp [Place.after, hc], start, ?_, ?_⟩
      · simpa [hc] using hstart
      · simp only [Place.after, hc, if_false, List.length_singleton]
        omega

/-- **A place reads back as a position**: the line that is reached behind a front of the document is one
of its lines, and line and column give the length of the front. -/
theorem position?_reached (front rest : List Char) :
    position? (front ++ rest) (Place.reached front).line (Place.reached front).col =
      some front.length := by
  obtain ⟨hline, hcol, start, hstart, hlength⟩ := reached_spec front
  have hin : front.count '\n' < (lineStarts front).length := by
    rw [length_lineStarts]
    omega
  have hstarts : (lineStarts (front ++ rest))[front.count '\n']? = some start := by
    unfold lineStarts at hstart hin ⊢
    rw [breaks_append, ← List.cons_append, List.getElem?_append_left hin, hstart]
  unfold position?
  have hindex : ((((Place.reached front).line : Nat) : Int) - 1).toNat = front.count '\n' := by omega
  rw [if_pos (by omega), hindex, hstarts, Option.map_some]
  congr 1
  omega

end WordLint.Markup
