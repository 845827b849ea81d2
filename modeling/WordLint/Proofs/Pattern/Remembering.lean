import Mathlib
import WordLint.Pattern.Cache

/-!
# Remembering patterns

A pattern that is remembered is the one that its text is read as (`Faithful`); asking keeps that. So every
answer is the same as without a memory, refusals included (`answers_eq`), and so is what patterns find
(`occurrences_eq`), whatever has been asked before.

**The law of the memory** (`keys_after`): what is remembered are the `capacity` different patterns that were
asked for last, refused ones left out. So, as long as no more different patterns are asked for, and none that
was asked for earlier, exactly the first time that each of them is asked for is a miss (`misses_after`).
-/

namespace WordLint

/-! ## Lists without repetitions -/

section Distinct

variable {α : Type} [DecidableEq α]

/-- Taking out repetitions and taking out elements can be done in either order. -/
theorem eraseDups_filter (p : α → Bool) (l : List α) : (l.filter p).eraseDups = l.eraseDups.filter p := by
  induction hn : l.length using Nat.strong_induction_on generalizing l with
  | _ n ih =>
    cases l with
    | nil => rfl
    | cons a as =>
      subst hn
      have hlength : (as.filter fun b => !b == a).length < (a :: as).length :=
        Nat.lt_succ_of_le (List.length_filter_le _ _)
      have hrest := ih _ hlength _ rfl
      rw [List.eraseDups_cons, List.filter_cons]
      cases hp : p a with
      | true =>
        rw [if_pos rfl, List.eraseDups_cons, List.filter_cons, hp, if_pos rfl, ← hrest, List.filter_comm]
      | false =>
        rw [if_neg Bool.false_ne_true, List.filter_cons, hp, if_neg Bool.false_ne_true, ← hrest,
          List.filter_filter]
        refine congrArg List.eraseDups (List.filter_congr fun b _ => ?_)
        by_cases hb : b = a
        · simp [hb, hp]
        · simp [hb]

theorem nodup_eraseDups (l : List α) : l.eraseDups.Nodup := by
  induction hn : l.length using Nat.strong_induction_on generalizing l with
  | _ n ih =>
    cases l with
    | nil => exact List.nodup_nil
    | cons a as =>
      subst hn
      rw [List.eraseDups_cons]
      refine List.nodup_cons.mpr ⟨?_, ih _ (Nat.lt_succ_of_le (List.length_filter_le _ _)) _ rfl⟩
      simp

/-- As many elements are left as there are different ones. -/
theorem length_eraseDups (l : List α) : l.eraseDups.length = l.toFinset.card := by
  rw [← List.toFinset_card_of_nodup (nodup_eraseDups l)]
  congr 1
  ext a
  simp

/-- Putting an element in front of the first `n + 1` ones, and dropping where it stood before, loses at most
the last of them. -/
theorem take_filter_take {a : α} {l : List α} (h : l.Nodup) (n : ℕ) :
    (((l.take (n + 1)).filter fun b => !b == a).take n) = (l.filter fun b => !b == a).take n := by
  induction l generalizing n with
  | nil => simp
  | cons b l ih =>
    obtain ⟨hb, hl⟩ := List.nodup_cons.mp h
    rw [List.take_succ_cons]
    by_cases hba : b = a
    · subst hba
      have hnot : ∀ x ∈ l, (!x == b) = true := by
        intro x hx
        simpa using fun heq : x = b => hb (heq ▸ hx)
      have hnot' : ∀ x ∈ l.take n, (!x == b) = true := fun x hx => hnot x (List.mem_of_mem_take hx)
      simp [List.filter_eq_self.mpr hnot, List.filter_eq_self.mpr hnot']
    · cases n with
      | zero => simp
      | succ n =>
        have hkeep : (!b == a) = true := by simpa using hba
        simp only [List.filter_cons, hkeep, if_true, List.take_succ_cons, ih hl]

end Distinct

namespace PatternCache

variable {c : PatternCache} {raw : String} {p : Pattern}

/-! ## Answers -/

/-- Every pattern that is remembered is the one that its text is read as. -/
def Faithful (c : PatternCache) : Prop :=
  ∀ entry ∈ c, Pattern.compile entry.1 = .ok entry.2

theorem faithful_nil : Faithful [] :=
  fun _ h => absurd h List.not_mem_nil

theorem Faithful.find? (h : Faithful c) (hp : c.find? raw = some p) : Pattern.compile raw = .ok p := by
  obtain ⟨before, after, rfl, _⟩ := List.lookup_eq_some_iff.mp hp
  exact h (raw, p) (by simp)

theorem Faithful.remember (h : Faithful c) (hp : Pattern.compile raw = .ok p) : Faithful (c.remember raw p) := by
  intro entry hentry
  rcases List.mem_cons.mp (List.mem_of_mem_take hentry) with rfl | hentry
  · exact hp
  · exact h entry (List.mem_of_mem_filter hentry)

/-- What asking for a pattern comes to: the pattern as it is read, and it is remembered unless it is
refused. -/
theorem Faithful.compile_eq (h : Faithful c) (raw : String) :
    c.compile raw = (Pattern.compile raw, match Pattern.compile raw with
      | .ok p => c.remember raw p
      | .error _ => c) := by
  unfold compile
  cases hfind : c.find? raw with
  | some p => simp only [h.find? hfind]
  | none => cases Pattern.compile raw <;> rfl

/-- Asking for a pattern keeps the memory faithful. -/
theorem Faithful.next (h : Faithful c) (raw : String) : Faithful (c.compile raw).2 := by
  rw [h.compile_eq]
  cases hp : Pattern.compile raw with
  | ok p => exact h.remember hp
  | error f => exact h

/-- The memory after some patterns have been asked for. -/
def after (c : PatternCache) (raws : List String) : PatternCache :=
  raws.foldl (fun c raw => (c.compile raw).2) c

/-- The answers to asking for patterns one after the other. -/
def answers (c : PatternCache) : List String → List (Except Regex.Failure Pattern)
  | [] => []
  | raw :: rest => (c.compile raw).1 :: answers (c.compile raw).2 rest

theorem after_concat (c : PatternCache) (raws : List String) (raw : String) :
    c.after (raws ++ [raw]) = ((c.after raws).compile raw).2 := by
  unfold after
  rw [List.foldl_append]
  rfl

theorem Faithful.after (h : Faithful c) (raws : List String) : Faithful (c.after raws) := by
  induction raws generalizing c with
  | nil => exact h
  | cons raw rest ih => exact ih (h.next raw)

/-- **Every answer is the one without a memory.** -/
theorem Faithful.answers_eq (h : Faithful c) (raws : List String) :
    c.answers raws = raws.map Pattern.compile := by
  induction raws generalizing c with
  | nil => rfl
  | cons raw rest ih =>
    unfold answers
    rw [ih (h.next raw), h.compile_eq, List.map_cons]

/-- **What patterns find is what they find without a memory.** -/
theorem Faithful.occurrences_eq (h : Faithful c) (text : String) (patterns : List String) :
    (c.occurrences text patterns).1 = WordLint.occurrences text patterns := by
  unfold PatternCache.occurrences WordLint.occurrences
  induction patterns generalizing c with
  | nil => rfl
  | cons raw rest ih =>
    have hrest := ih (h.next raw)
    unfold occurrencesIn
    rw [h.compile_eq] at hrest ⊢
    rw [List.mapM_cons]
    cases hp : Pattern.compile raw with
    | error f => rfl
    | ok p =>
      rw [hp] at hrest
      dsimp only at hrest ⊢
      rw [hrest]
      cases rest.mapM Pattern.compile with
      | error f => rfl
      | ok compiled => simp [bind, Except.bind, pure, Except.pure, Except.map]

/-! ## What is remembered -/

/-- The texts of the patterns that are remembered, last asked for first. -/
def keys (c : PatternCache) : List String :=
  c.map Prod.fst

theorem find?_isNone_iff : (c.find? raw).isNone ↔ raw ∉ c.keys := by
  unfold find? keys
  rw [Option.isNone_iff_eq_none, List.lookup_eq_none_iff]
  simp only [List.mem_map, bne_iff_ne, ne_eq, not_exists, not_and]
  exact ⟨fun h entry hentry heq => h entry hentry heq.symm, fun h entry hentry heq => h entry hentry heq.symm⟩

theorem keys_remember (c : PatternCache) (raw : String) (p : Pattern) :
    (c.remember raw p).keys = (raw :: c.keys.filter fun k => !k == raw).take capacity := by
  unfold remember keys
  rw [List.map_take, List.map_cons, List.filter_map]
  rfl

/-- A pattern can be read. -/
def reads (raw : String) : Bool :=
  (Pattern.compile raw).isOk

theorem reads_iff : reads raw ↔ ∃ p, Pattern.compile raw = .ok p := by
  unfold reads
  cases Pattern.compile raw <;> simp [Except.isOk, Except.toBool]

/-- The different ones among some patterns that have been asked for, the last one first, without those that are
refused. -/
def latest (raws : List String) : List String :=
  (raws.filter reads).reverse.eraseDups

theorem latest_concat_of_reads (raws : List String) (h : reads raw) :
    latest (raws ++ [raw]) = raw :: (latest raws).filter fun k => !k == raw := by
  unfold latest
  rw [List.filter_append, List.filter_cons_of_pos h, List.filter_nil, List.reverse_concat, List.eraseDups_cons,
    eraseDups_filter]

theorem latest_concat_of_not_reads (raws : List String) (h : ¬reads raw) :
    latest (raws ++ [raw]) = latest raws := by
  unfold latest
  rw [List.filter_append, List.filter_cons_of_neg h, List.filter_nil, List.append_nil]

/-- **What is remembered** are the `capacity` different patterns that were asked for last. -/
theorem keys_after (raws : List String) : (after [] raws).keys = (latest raws).take capacity := by
  induction raws using List.reverseRecOn with
  | nil => rfl
  | append_singleton raws raw ih =>
    rw [after_concat, (faithful_nil.after raws).compile_eq]
    cases hp : Pattern.compile raw with
    | ok p =>
      rw [latest_concat_of_reads raws (reads_iff.mpr ⟨p, hp⟩)]
      dsimp only
      rw [keys_remember, ih]
      exact congrArg (raw :: ·) (take_filter_take (nodup_eraseDups _) 511)
    | error f =>
      have hnot : ¬reads raw := by
        rw [reads_iff, hp]
        simp
      rw [latest_concat_of_not_reads raws hnot]
      exact ih

/-! ## Misses -/

/-- The patterns that have to be read among those that are asked for. -/
def misses (c : PatternCache) : List String → List String
  | [] => []
  | raw :: rest => (if (c.find? raw).isNone then [raw] else []) ++ misses (c.compile raw).2 rest

/-- While no more different patterns than can be remembered are asked for, and none that was asked for before
these, those that have been asked for are remembered. -/
theorem mem_keys_after_iff {before asked : List String} (hreads : ∀ raw ∈ asked, reads raw)
    (hfew : asked.eraseDups.length ≤ capacity) (hnew : raw ∉ before) :
    raw ∈ (after [] (before ++ asked)).keys ↔ raw ∈ asked := by
  have hlatest : latest (before ++ asked) =
      asked.reverse.eraseDups ++ ((before.filter reads).reverse.removeAll asked.reverse).eraseDups := by
    unfold latest
    rw [List.filter_append, List.reverse_append, List.filter_eq_self.mpr hreads, List.eraseDups_append]
  have hlength : asked.reverse.eraseDups.length ≤ capacity := by
    rw [length_eraseDups] at hfew ⊢
    rwa [List.toFinset_reverse]
  rw [keys_after, hlatest, List.take_append, List.take_of_length_le hlength, List.mem_append,
    List.mem_eraseDups, List.mem_reverse]
  refine or_iff_left fun hmem => hnew ?_
  have hbefore := List.mem_eraseDups.mp (List.mem_of_mem_take hmem)
  simp only [List.removeAll, List.mem_filter, List.mem_reverse] at hbefore
  exact hbefore.1.1

/-- **Misses.** Each pattern is read the first time that it is asked for, and not again. -/
theorem misses_after (before asked rest : List String) (hreads : ∀ raw ∈ asked ++ rest, reads raw)
    (hfew : (asked ++ rest).eraseDups.length ≤ capacity) (hnew : ∀ raw ∈ asked ++ rest, raw ∉ before) :
    misses (after [] (before ++ asked)) rest = (rest.filter fun raw => raw ∉ asked).eraseDups := by
  induction rest generalizing asked with
  | nil => rfl
  | cons raw rest ih =>
    have hasked : asked.eraseDups.length ≤ capacity := by
      rw [length_eraseDups] at hfew ⊢
      refine (Finset.card_le_card ?_).trans hfew
      rw [List.toFinset_append]
      exact Finset.subset_union_left
    have hmem : raw ∈ (after [] (before ++ asked)).keys ↔ raw ∈ asked :=
      mem_keys_after_iff (fun raw hraw => hreads raw (List.mem_append_left _ hraw)) hasked
        (hnew raw (by simp))
    have hnext : ((after [] (before ++ asked)).compile raw).2 = after [] (before ++ (asked ++ [raw])) := by
      rw [← after_concat, List.append_assoc]
    rw [List.append_cons] at hreads hfew hnew
    rw [misses, hnext, ih _ hreads hfew hnew]
    by_cases hraw : raw ∈ asked
    · have hsame : (rest.filter fun k => k ∉ asked ++ [raw]) = rest.filter fun k => k ∉ asked := by
        refine List.filter_congr fun k _ => ?_
        by_cases hk : k = raw <;> simp [hk, hraw]
      rw [if_neg (by rw [find?_isNone_iff, hmem]; simpa using hraw), List.filter_cons_of_neg (by simpa using hraw),
        hsame]
      rfl
    · have hothers : (rest.filter fun k => k ∉ asked ++ [raw]) =
          (rest.filter fun k => k ∉ asked).filter fun k => !k == raw := by
        rw [List.filter_filter]
        refine List.filter_congr fun k _ => ?_
        by_cases hk : k = raw <;> simp [hk, hraw]
      rw [if_pos (by rw [find?_isNone_iff, hmem]; exact hraw), List.filter_cons_of_pos (by simpa using hraw),
        List.eraseDups_cons, hothers]
      rfl

end PatternCache

end WordLint
