import WordLint.Proofs.Regex.Forward

/-!
# The scan of a text

A scan searches a text again and again, each time from the end of the span before, until a search fails.
`Compiled.Scans` says this without a bound on the number of searches. Every search leaves fewer to be made
(`searchesLeft`): it moves on, or it stays behind an empty span and is then no longer content with an empty
one. So the bound of `Compiled.spans` is never reached (`spans_scans`), and any higher one gives the same
(`Scans.eq_spansFrom`).

**The spans of a text** (`spans_foundAll`) go from left to right, no two of them are the same, and the expression
matches at no position that lies before, between or behind them.
-/

namespace WordLint.Regex

variable {e : Compiled} {text : Array Char} {start s stop : Nat} {nonempty : Bool}

/-- An expression matches at a position of a text. -/
def Compiled.MatchesAt (e : Compiled) (text : Array Char) (i : Nat) : Prop :=
  (e.matchEnd? text i false).isSome

/-- A search from a position is content with any match at this one: not with an empty one at the position
itself when it must not be empty. -/
def Searched (start : Nat) (nonempty : Bool) (i : Nat) : Prop :=
  start < i ∨ start = i ∧ nonempty = false

/-! ## One search -/

/-- A match that must not be empty ends behind its start. -/
theorem matchEnd?_nonempty (h : e.matchEnd? text start true = some stop) : start < stop := by
  have hle := (matchEnd?_ahead h).1
  unfold Compiled.matchEnd? at h
  obtain ⟨q, hrun, rfl⟩ := Option.map_eq_some_iff.mp h
  obtain ⟨p', _, haccept⟩ := run_forward text e.regex e.mode _ _ q hrun
  split at haccept
  · cases haccept
  · rename_i hmoved
    cases haccept
    have hne : q.position ≠ start := by simpa using hmoved
    omega

/-- A search that fails has found no match at any of its positions. -/
theorem not_matchesAt_of_firstFrom_none : ∀ {count start : Nat} {nonempty : Bool},
    e.firstFrom text count start nonempty = none →
      ∀ i, Searched start nonempty i → i < start + count → ¬ e.MatchesAt text i := by
  intro count
  induction count with
  | zero =>
    rintro start nonempty _ i (hlt | ⟨rfl, _⟩) hcount <;> omega
  | succ count ih =>
    intro start nonempty h i hi hcount
    unfold Compiled.firstFrom at h
    split at h
    · cases h
    · rename_i hstart
      rcases hi with hlt | ⟨rfl, rfl⟩
      · refine ih h i ?_ (by omega)
        rcases Nat.eq_or_lt_of_le hlt with heq | hlt
        · exact .inr ⟨heq, rfl⟩
        · exact .inl hlt
      · simp [Compiled.MatchesAt, hstart]

/-- A search that finds a span has found no match at any position before it. -/
theorem not_matchesAt_of_firstFrom_some : ∀ {count start : Nat} {nonempty : Bool},
    e.firstFrom text count start nonempty = some (s, stop) →
      ∀ i, Searched start nonempty i → i < s → ¬ e.MatchesAt text i := by
  intro count
  induction count with
  | zero => exact fun h => nomatch h
  | succ count ih =>
    intro start nonempty h i hi hlt
    unfold Compiled.firstFrom at h
    split at h
    · cases h
      rcases hi with hi | ⟨rfl, _⟩ <;> omega
    · rename_i hstart
      rcases hi with hi | ⟨rfl, rfl⟩
      · refine ih h i ?_ hlt
        rcases Nat.eq_or_lt_of_le hi with heq | hi
        · exact .inr ⟨heq, rfl⟩
        · exact .inl hi
      · simp [Compiled.MatchesAt, hstart]

/-- The span that a search finds is the match at its start. Only where the search starts must it not be
empty. -/
theorem matchEnd?_of_firstFrom_some : ∀ {count start : Nat} {nonempty : Bool},
    e.firstFrom text count start nonempty = some (s, stop) →
      e.matchEnd? text s (nonempty && s == start) = some stop := by
  intro count
  induction count with
  | zero => exact fun h => nomatch h
  | succ count ih =>
    intro start nonempty h
    unfold Compiled.firstFrom at h
    split at h
    · rename_i stop' hstop
      cases h
      rw [beq_self_eq_true, Bool.and_true]
      exact hstop
    · have hlater := (firstFrom_ahead _ _ _ h).1
      dsimp only at hlater
      rw [beq_eq_false_iff_ne.mpr (by omega), Bool.and_false]
      exact ih h

/-- The span that a search finds is not empty where it must not be. -/
theorem firstFrom_nonempty {count : Nat} (h : e.firstFrom text count start true = some (s, stop)) :
    start < stop := by
  obtain ⟨hstart, _, hle, _⟩ := firstFrom_ahead _ _ _ h
  dsimp only at hstart hle
  rcases Nat.eq_or_lt_of_le hstart with rfl | hlt
  · have hmatch := matchEnd?_of_firstFrom_some h
    rw [beq_self_eq_true, Bool.and_true] at hmatch
    exact matchEnd?_nonempty hmatch
  · omega

/-! ## The searches of a scan -/

/-- A scan from a position on: searches, each from the end of the span before, until one fails. -/
inductive Compiled.Scans (e : Compiled) (text : Array Char) :
    (start : Nat) → (nonempty : Bool) → List (Nat × Nat) → Prop where
  | failed {start : Nat} {nonempty : Bool}
      (h : e.firstFrom text (text.size + 1 - start) start nonempty = none) :
      e.Scans text start nonempty []
  | found {start s stop : Nat} {nonempty : Bool} {rest : List (Nat × Nat)}
      (h : e.firstFrom text (text.size + 1 - start) start nonempty = some (s, stop))
      (hrest : e.Scans text stop (s == stop) rest) :
      e.Scans text start nonempty ((s, stop) :: rest)

/-- More searches than a scan from a position on can make. -/
def searchesLeft (text : Array Char) (start : Nat) (nonempty : Bool) : Nat :=
  2 * (text.size + 1 - start) + if nonempty then 0 else 1

/-- What one search does: the span that it finds lies ahead, and fewer searches are left behind it. -/
theorem firstFrom_step
    (h : e.firstFrom text (text.size + 1 - start) start nonempty = some (s, stop)) :
    start ≤ s ∧ s ≤ stop ∧ stop ≤ text.size ∧
      searchesLeft text stop (s == stop) < searchesLeft text start nonempty := by
  obtain ⟨hstart, hcount, hle, hin⟩ := firstFrom_ahead _ _ _ h
  dsimp only at hstart hcount hle hin
  have hstop : stop ≤ text.size := hin (by omega)
  refine ⟨hstart, hle, hstop, ?_⟩
  unfold searchesLeft
  by_cases hempty : s = stop
  · subst hempty
    rw [beq_self_eq_true, if_pos rfl]
    cases nonempty with
    | false =>
      rw [if_neg Bool.false_ne_true]
      omega
    | true =>
      have hmoved := firstFrom_nonempty h
      rw [if_pos rfl]
      omega
  · rw [beq_eq_false_iff_ne.mpr hempty, if_neg Bool.false_ne_true]
    omega

/-- A bound that leaves all searches their turn is not reached. -/
theorem spansFrom_scans : ∀ {fuel start : Nat} {nonempty : Bool}, start ≤ text.size →
    searchesLeft text start nonempty ≤ fuel →
      e.Scans text start nonempty (e.spansFrom text fuel start nonempty) := by
  intro fuel
  induction fuel with
  | zero =>
    intro start nonempty hstart hfuel
    unfold searchesLeft at hfuel
    omega
  | succ fuel ih =>
    intro start nonempty hstart hfuel
    unfold Compiled.spansFrom
    split
    · rename_i hnone
      exact .failed hnone
    · rename_i s stop hfound
      obtain ⟨_, _, hstop, hleft⟩ := firstFrom_step hfound
      exact .found hfound (ih hstop (by omega))

theorem spans_scans (e : Compiled) (text : Array Char) : e.Scans text 0 false (e.spans text) := by
  refine spansFrom_scans (Nat.zero_le _) ?_
  unfold searchesLeft
  rw [if_neg Bool.false_ne_true]
  omega

namespace Compiled.Scans

variable {spans : List (Nat × Nat)}

/-- A scan comes to the same with every bound that is high enough. -/
theorem eq_spansFrom (h : e.Scans text start nonempty spans) : ∀ {fuel : Nat}, start ≤ text.size →
    searchesLeft text start nonempty ≤ fuel → e.spansFrom text fuel start nonempty = spans := by
  induction h with
  | @failed start nonempty hnone =>
    intro fuel _ _
    cases fuel with
    | zero => rfl
    | succ fuel =>
      unfold spansFrom
      rw [hnone]
  | @found start s stop nonempty rest hfound _ ih =>
    intro fuel hstart hfuel
    obtain ⟨_, _, hstop, hleft⟩ := firstFrom_step hfound
    cases fuel with
    | zero =>
      unfold searchesLeft at hfuel
      omega
    | succ fuel =>
      unfold spansFrom
      rw [hfound]
      dsimp only
      rw [ih hstop (by omega)]

/-- The spans of a scan are ahead of its start, and end behind it when the first must not be empty. -/
theorem ahead (h : e.Scans text start nonempty spans) : ∀ span ∈ spans,
    start ≤ span.1 ∧ span.1 ≤ span.2 ∧ span.2 ≤ text.size ∧ (nonempty = true → start < span.2) := by
  induction h with
  | failed => exact fun _ hmem => nomatch hmem
  | @found start s stop nonempty rest hfound _ ih =>
    obtain ⟨hstart, hle, hstop, _⟩ := firstFrom_step hfound
    have hmoved : nonempty = true → start < stop := by
      rintro rfl
      exact firstFrom_nonempty hfound
    intro span hmem
    rcases List.mem_cons.mp hmem with rfl | hmem
    · exact ⟨hstart, hle, hstop, hmoved⟩
    · obtain ⟨hfrom, hspan, hin, _⟩ := ih span hmem
      exact ⟨by omega, hspan, hin, fun hnonempty => by have := hmoved hnonempty; omega⟩

/-- No span is found twice: the one behind an empty span ends behind it. -/
theorem nodup (h : e.Scans text start nonempty spans) : spans.Nodup := by
  induction h with
  | failed => exact .nil
  | @found start s stop nonempty rest hfound hrest ih =>
    refine List.nodup_cons.mpr ⟨fun hmem => ?_, ih⟩
    obtain ⟨hfrom, _, _, hbehind⟩ := hrest.ahead _ hmem
    dsimp only at hfrom hbehind
    have hle := (firstFrom_step hfound).2.1
    have hempty : s = stop := by omega
    have := hbehind (beq_iff_eq.mpr hempty)
    omega

/-- Every span is the match at its start; where an empty span stands, or the scan has come from one, it is the
match there that is not empty. -/
theorem matched (h : e.Scans text start nonempty spans) : ∀ span ∈ spans,
    e.matchEnd? text span.1 false = some span.2 ∨
      ((span.1, span.1) ∈ spans ∨ nonempty = true ∧ span.1 = start) ∧
        e.matchEnd? text span.1 true = some span.2 := by
  induction h with
  | failed => exact fun _ hmem => nomatch hmem
  | @found start s stop nonempty rest hfound _ ih =>
    intro span hmem
    rcases List.mem_cons.mp hmem with rfl | hmem
    · have hmatch := matchEnd?_of_firstFrom_some hfound
      cases hsecond : nonempty && s == start with
      | false =>
        rw [hsecond] at hmatch
        exact .inl hmatch
      | true =>
        rw [hsecond] at hmatch
        obtain ⟨hnonempty, hstart⟩ := Bool.and_eq_true_iff.mp hsecond
        exact .inr ⟨.inr ⟨hnonempty, beq_iff_eq.mp hstart⟩, hmatch⟩
    · rcases ih span hmem with hmatch | ⟨hempty | ⟨hempty, hstart⟩, hmatch⟩
      · exact .inl hmatch
      · exact .inr ⟨.inl (List.mem_cons_of_mem _ hempty), hmatch⟩
      · obtain rfl : s = stop := beq_iff_eq.mp hempty
        rw [hstart] at hmatch ⊢
        exact .inr ⟨.inl List.mem_cons_self, hmatch⟩

/-- Where the expression matches there is a span, or one ends there. -/
theorem covers (h : e.Scans text start nonempty spans) : ∀ i ≤ text.size, Searched start nonempty i →
    e.MatchesAt text i → ∃ span ∈ spans, span.1 ≤ i ∧ i ≤ span.2 := by
  induction h with
  | @failed start nonempty hnone =>
    intro i hi hsearched hmatches
    refine absurd hmatches (not_matchesAt_of_firstFrom_none hnone i hsearched ?_)
    rcases hsearched with h | ⟨rfl, _⟩ <;> omega
  | @found start s stop nonempty rest hfound _ ih =>
    intro i hi hsearched hmatches
    have hbefore : s ≤ i := by
      by_contra hlt
      exact not_matchesAt_of_firstFrom_some hfound i hsearched (by omega) hmatches
    by_cases hstop : i ≤ stop
    · exact ⟨(s, stop), List.mem_cons_self, hbefore, hstop⟩
    · obtain ⟨span, hmem, hspan⟩ := ih i hi (.inl (by omega)) hmatches
      exact ⟨span, List.mem_cons_of_mem _ hmem, hspan⟩

end Compiled.Scans

/-! ## The spans of a text -/

/-- The spans of a whole scan: inside the text and from left to right, no two the same. Each is the match at its
start, or behind an empty span there the match that is not empty; and nothing matches at any position before,
between or behind them. -/
structure Compiled.FoundAll (e : Compiled) (text : Array Char) (spans : List (Nat × Nat)) : Prop where
  inside : ∀ span ∈ spans, span.1 ≤ span.2 ∧ span.2 ≤ text.size
  ordered : spans.Pairwise fun a b => a.2 ≤ b.1
  distinct : spans.Nodup
  matched : ∀ span ∈ spans, e.matchEnd? text span.1 false = some span.2 ∨
    (span.1, span.1) ∈ spans ∧ e.matchEnd? text span.1 true = some span.2
  gaps : ∀ before after, spans = before ++ after → ∀ i ≤ text.size,
    (∀ span ∈ before, span.2 < i) → (∀ span ∈ after, i < span.1) → ¬ e.MatchesAt text i

/-- **The spans of a text** are those of a whole scan. -/
theorem spans_foundAll (e : Compiled) (text : Array Char) : e.FoundAll text (e.spans text) where
  inside := (spans_ordered e text).1
  ordered := (spans_ordered e text).2
  distinct := (spans_scans e text).nodup
  matched := by
    intro span hmem
    rcases (spans_scans e text).matched span hmem with hmatch | ⟨hempty | ⟨hempty, _⟩, hmatch⟩
    · exact .inl hmatch
    · exact .inr ⟨hempty, hmatch⟩
    · cases hempty
  gaps := by
    intro before after hspans i hi hbefore hafter hmatches
    have hsearched : Searched 0 false i := (Nat.eq_zero_or_pos i).symm.imp id fun h => ⟨h.symm, rfl⟩
    obtain ⟨span, hmem, hfrom, hto⟩ := (spans_scans e text).covers i hi hsearched hmatches
    rw [hspans] at hmem
    rcases List.mem_append.mp hmem with hmem | hmem
    · have := hbefore span hmem
      omega
    · have := hafter span hmem
      omega

end WordLint.Regex
