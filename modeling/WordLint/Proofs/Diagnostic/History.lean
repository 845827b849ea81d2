import Mathlib
import WordLint.Diagnostic.Journal

/-!
# The history of a log

A log, its snapshots, and a log that has been put back to one of them hold the same diagnostics for a while.
They do not hold the same cell: adding to the log changes its cell in place, and no snapshot may change with it.

**The law** (`log_history`): after any actions the log has what was in the snapshot that it was put back to last,
or nothing, and behind it what has been added since. Every snapshot still has what the log had when it was
taken. The counts of the log, and of each snapshot, are the numbers of its diagnostics of each severity.

The invariant is `Journal.Apart`: the log and the snapshots have cells that exist, and no snapshot is in the cell
of the log. An action keeps it (`Apart.act`), and so do some actions (`Apart.after`).
-/

namespace WordLint

/-! ## Counts -/

namespace Log

/-- Every diagnostic is of one of the severities. -/
theorem total_counts (log : Log) : log.counts.total = log.length := by
  induction log with
  | nil => rfl
  | cons d log ih =>
    unfold counts countOf Counts.total at ih ⊢
    simp only [List.countP_cons, List.length_cons] at ih ⊢
    cases d.severity <;> simp <;> omega

/-- There is an error when some are counted. -/
theorem hasError_iff (log : Log) : log.hasError = true ↔ 0 < log.counts.error := by
  unfold hasError counts countOf
  rw [List.any_eq_true, List.countP_pos_iff]

end Log

namespace Journal

/-! ## Actions -/

/-- Something that is done with a journal. -/
inductive Action where
  | report (d : Diagnostic)
  | freeze (name : String)
  | thaw (name : String)

/-- The journal after an action. -/
def act (j : Journal) : Action → Journal
  | .report d => j.report d
  | .freeze name => j.freeze name
  | .thaw name => j.thaw name

/-- The journal after some actions. -/
def after (j : Journal) (actions : List Action) : Journal :=
  actions.foldl act j

/-- The diagnostic that an action adds. -/
def Action.diagnostic? : Action → Option Diagnostic
  | .report d => some d
  | _ => none

/-- The diagnostics that some actions add, in order. -/
def added (actions : List Action) : Log :=
  actions.filterMap Action.diagnostic?

/-- The log is put back to a snapshot. -/
def Action.PutsBack (a : Action) : Prop :=
  ∃ name, a = .thaw name

/-- The name that a snapshot is taken under. -/
def Action.frozen? : Action → Option String
  | .freeze name => some name
  | _ => none

/-- The snapshots with their items, the latest one first. -/
def kept (j : Journal) : List (String × Log) :=
  j.snapshots.map fun s => (s.1, j.items s.2)

theorem after_append (j : Journal) (actions more : List Action) :
    j.after (actions ++ more) = (j.after actions).after more :=
  List.foldl_append

theorem snapshot?_eq (j : Journal) (name : String) : j.snapshot? name = j.kept.lookup name := by
  unfold snapshot? kept
  induction j.snapshots with
  | nil => rfl
  | cons s rest ih =>
    rw [List.map_cons, List.lookup_cons, List.lookup_cons]
    cases name == s.1
    · exact ih
    · rfl

/-! ## Cells -/

/-- The cells of the log and the snapshots exist, and no snapshot is in the cell of the log. -/
structure Apart (j : Journal) : Prop where
  current_lt : j.current < j.cells.length
  snapshot_lt : ∀ s ∈ j.snapshots, s.2 < j.cells.length
  apart : ∀ s ∈ j.snapshots, s.2 ≠ j.current

theorem apart_empty : Apart empty where
  current_lt := Nat.zero_lt_one
  snapshot_lt := fun _ h => nomatch h
  apart := fun _ h => nomatch h

variable {j : Journal}

/-! ## One action -/

/-- What is added to the log stands at its end. -/
theorem log_report (h : Apart j) (d : Diagnostic) : (j.report d).log = j.log ++ [d] := by
  unfold log items report
  dsimp only
  rw [List.getElem?_modify_eq, List.getElem?_eq_getElem h.current_lt]
  rfl

/-- What is added to the log is in no snapshot. -/
theorem kept_report (h : Apart j) (d : Diagnostic) : (j.report d).kept = j.kept := by
  unfold kept items report
  refine List.map_congr_left fun s hs => ?_
  dsimp only
  rw [List.getElem?_modify_ne _ _ (h.apart s hs).symm]

theorem log_freeze (h : Apart j) (name : String) : (j.freeze name).log = j.log := by
  unfold log items freeze
  dsimp only
  rw [List.getElem?_append_left h.current_lt]

/-- A snapshot has the items of the log. -/
theorem kept_freeze (h : Apart j) (name : String) : (j.freeze name).kept = (name, j.log) :: j.kept := by
  unfold kept items freeze
  rw [List.map_cons, List.getElem?_concat_length]
  refine congrArg _ (List.map_congr_left fun s hs => ?_)
  dsimp only
  rw [List.getElem?_append_left (h.snapshot_lt s hs)]

/-- A log that is put back has the items of the snapshot. -/
theorem log_thaw {name : String} {log : Log} (h : j.snapshot? name = some log) : (j.thaw name).log = log := by
  unfold thaw
  rw [h]
  unfold Journal.log items
  dsimp only
  rw [List.getElem?_concat_length]
  rfl

theorem kept_thaw (h : Apart j) (name : String) : (j.thaw name).kept = j.kept := by
  unfold thaw
  split
  · unfold kept items
    refine List.map_congr_left fun s hs => ?_
    dsimp only
    rw [List.getElem?_append_left (h.snapshot_lt s hs)]
  · rfl

/-- **An action keeps the cells apart.** -/
theorem Apart.act (h : Apart j) (a : Action) : Apart (j.act a) := by
  cases a with
  | report d =>
    -- no cell is new, and the log stays in its own
    have hlength : (j.report d).cells.length = j.cells.length := List.length_modify _ _ _
    exact ⟨by rw [Journal.act, hlength]; exact h.current_lt,
      fun s hs => by rw [Journal.act, hlength]; exact h.snapshot_lt s hs, h.apart⟩
  | freeze name =>
    have hlength : (j.freeze name).cells.length = j.cells.length + 1 := List.length_append
    have hcurrent := h.current_lt
    refine ⟨?_, fun s hs => ?_, fun s hs => ?_⟩
    · rw [Journal.act, hlength]
      exact Nat.lt_succ_of_lt hcurrent
    · rw [Journal.act, hlength]
      rcases List.mem_cons.mp hs with rfl | hs
      · exact Nat.lt_succ_self _
      · exact Nat.lt_succ_of_lt (h.snapshot_lt s hs)
    · rcases List.mem_cons.mp hs with rfl | hs
      · exact hcurrent.ne'
      · exact h.apart s hs
  | thaw name =>
    unfold Journal.act thaw
    dsimp only
    split
    · have hlength (log : Log) : (j.cells ++ [log]).length = j.cells.length + 1 := List.length_append
      refine ⟨?_, fun s hs => ?_, fun s hs => ?_⟩
      · rw [hlength]
        exact Nat.lt_succ_self _
      · rw [hlength]
        exact Nat.lt_succ_of_lt (h.snapshot_lt s hs)
      · exact (h.snapshot_lt s hs).ne
    · exact h

/-- The snapshots after an action: those before it, and the one that it takes. -/
theorem kept_act (h : Apart j) (a : Action) :
    (j.act a).kept = (a.frozen?.map fun name => (name, j.log)).toList ++ j.kept := by
  cases a with
  | report d => exact kept_report h d
  | freeze name => exact kept_freeze h name
  | thaw name => exact kept_thaw h name

/-- The log after an action that does not put it back. -/
theorem log_act (h : Apart j) {a : Action} (ha : ¬ a.PutsBack) :
    (j.act a).log = j.log ++ a.diagnostic?.toList := by
  cases a with
  | report d => exact log_report h d
  | freeze name =>
    show (j.freeze name).log = j.log ++ []
    rw [log_freeze h, List.append_nil]
  | thaw name => exact absurd ⟨name, rfl⟩ ha

/-! ## Some actions -/

theorem Apart.after (h : Apart j) (actions : List Action) : Apart (j.after actions) := by
  induction actions generalizing j with
  | nil => exact h
  | cons a rest ih => exact ih (h.act a)

/-- The log after actions that do not put it back. -/
theorem log_after (h : Apart j) {actions : List Action} (hactions : ∀ a ∈ actions, ¬ a.PutsBack) :
    (j.after actions).log = j.log ++ added actions := by
  induction actions generalizing j with
  | nil => exact (List.append_nil _).symm
  | cons a rest ih =>
    obtain ⟨ha, hrest⟩ := List.forall_mem_cons.mp hactions
    have hadded : added (a :: rest) = a.diagnostic?.toList ++ added rest := by
      unfold added
      rw [List.filterMap_cons]
      cases a.diagnostic? <;> rfl
    show ((j.act a).after rest).log = _
    rw [ih (h.act a) hrest, log_act h ha, hadded, List.append_assoc]

/-- Snapshots stay as they are, behind those that are taken later. -/
theorem kept_after (h : Apart j) (actions : List Action) :
    ∃ later, (j.after actions).kept = later ++ j.kept ∧
      later.map Prod.fst = (actions.filterMap Action.frozen?).reverse := by
  induction actions generalizing j with
  | nil => exact ⟨[], rfl, rfl⟩
  | cons a rest ih =>
    obtain ⟨later, hkept, hnames⟩ := ih (h.act a)
    refine ⟨later ++ (a.frozen?.map fun name => (name, j.log)).toList, ?_, ?_⟩
    · show ((j.act a).after rest).kept = _
      rw [hkept, kept_act h, List.append_assoc]
    · rw [List.map_append, hnames, List.filterMap_cons]
      cases a.frozen? <;> simp

/-! ## The history -/

/-- What the counts of some diagnostics say: how many there are of each severity, which are all of them, and
whether there is an error. -/
structure Counted (log : Log) : Prop where
  byName : log.counts.byName =
    [Severity.info, .warning, .error].map fun s => (s.name, (log.filter (·.severity = s)).length)
  total : log.counts.total = log.length
  hasError : log.hasError = true ↔ 0 < log.counts.error

theorem counted (log : Log) : Counted log where
  byName := by
    simp only [List.map_cons, List.map_nil, ← List.countP_eq_length_filter]
    rfl
  total := log.total_counts
  hasError := log.hasError_iff

/-- **The history of a log.** A log that is never put back has what has been added to it. A log that is put back
to a snapshot has the items of the snapshot, and behind them what has been added since. A snapshot has the
items that the log had when it was taken, whatever is done later, and there are no other snapshots. The counts
are those of the items, and a snapshot has those of the log that it is taken of. -/
theorem log_history :
    (∀ since, (∀ a ∈ since, ¬ Action.PutsBack a) → (empty.after since).log = added since) ∧
    (∀ before name log since, (empty.after before).snapshot? name = some log →
      (∀ a ∈ since, ¬ Action.PutsBack a) →
      (empty.after (before ++ .thaw name :: since)).log = log ++ added since) ∧
    (∀ before name later,
      (name, (empty.after before).log) :: (empty.after before).kept <:+
        (empty.after (before ++ .freeze name :: later)).kept) ∧
    (∀ actions name, (empty.after actions).snapshot? name = (empty.after actions).kept.lookup name ∧
      (empty.after actions).kept.map Prod.fst = (actions.filterMap Action.frozen?).reverse) ∧
    (∀ actions, Counted (empty.after actions).log ∧ ∀ s ∈ (empty.after actions).kept, Counted s.2) ∧
    ∀ actions name, ((empty.after (actions ++ [.freeze name])).snapshot? name).map Log.counts =
      some (empty.after (actions ++ [.freeze name])).log.counts := by
  refine ⟨fun since hsince => log_after apart_empty hsince, ?_, ?_, ?_, ?_, ?_⟩
  · intro before name log since hsnapshot hsince
    have hbefore := apart_empty.after before
    rw [after_append]
    show (((empty.after before).act (.thaw name)).after since).log = _
    rw [log_after (hbefore.act (.thaw name)) hsince]
    show ((empty.after before).thaw name).log ++ added since = _
    rw [log_thaw hsnapshot]
  · intro before name later
    have hbefore := apart_empty.after before
    obtain ⟨more, hkept, -⟩ := kept_after (hbefore.act (.freeze name)) later
    rw [after_append]
    show _ <:+ (((empty.after before).freeze name).after later).kept
    rw [← kept_freeze hbefore]
    exact ⟨more, hkept.symm⟩
  · intro actions name
    obtain ⟨later, hkept, hnames⟩ := kept_after apart_empty actions
    refine ⟨snapshot?_eq _ name, ?_⟩
    rw [hkept, show empty.kept = [] from rfl, List.append_nil, hnames]
  · exact fun actions => ⟨counted _, fun s _ => counted s.2⟩
  · intro actions name
    have hactions := apart_empty.after actions
    rw [after_append]
    show (((empty.after actions).freeze name).snapshot? name).map Log.counts =
      some ((empty.after actions).freeze name).log.counts
    rw [snapshot?_eq, kept_freeze hactions, log_freeze hactions, List.lookup_cons_self]
    rfl

/-- Two snapshots, and a log that is put back to the first one and goes on from there: the second one stays. -/
theorem log_history_put_back :
    let warning : Diagnostic := ⟨.warning, "a", 1, 1, "block-words", ""⟩
    let error : Diagnostic := ⟨.error, "b", 2, 1, "block-words", "b"⟩
    let before : List Action := [.report warning, .freeze "x", .report error, .freeze "y"]
    (empty.after before).snapshot? "x" = some [warning] ∧ (∀ a ∈ [Action.report error], ¬ a.PutsBack) ∧
      (empty.after (before ++ .thaw "x" :: [.report error])).log = [warning] ++ added [.report error] ∧
      (empty.after (before ++ .thaw "x" :: [.report error])).kept = [("y", [warning, error]), ("x", [warning])] := by
  intro warning error before
  have hsnapshot : (empty.after before).snapshot? "x" = some [warning] := rfl
  have hsince : ∀ a ∈ [Action.report error], ¬ a.PutsBack := by
    rintro a ha ⟨name, rfl⟩
    cases List.mem_singleton.mp ha
  exact ⟨hsnapshot, hsince, log_history.2.1 before "x" [warning] [.report error] hsnapshot hsince, rfl⟩

end Journal

end WordLint
