import WordLint.Proofs.Trace.Layouts

/-!
# What a trace shows once it is set up

Whatever handlers a root has had, one is left when a trace has been set up, the terminal; and it shows the records
from the level of the root on, a line for each, in order.

**The law** (`setUp_shows`): that level is the one that is wanted (`Level.wanted`), with one exception. A setting that
asks for no level at all, so that everything passes, is taken for a setting that asks for nothing, and leads to the most
severe level (`unset_asked_critical`).
-/

namespace WordLint

/-! ## The level -/

/-- The level that is wanted: the one that is given, or else the one that is asked for, or else the most severe
one. -/
def Level.wanted (given asked : Option Level) : Level :=
  given.getD (asked.getD critical)

/-- A trace starts at the level that is wanted, unless that is no level which a setting asks for. -/
theorem Level.start_eq (given : Option Level) {setting : Option String} {asked : Option Level}
    (h : ofSetting setting = .ok asked) :
    start given setting =
      .ok (if given = none ∧ asked = some unset then critical else wanted given asked) := by
  unfold start wanted
  rw [h]
  cases given with
  | some level => simp
  | none =>
    cases asked with
    | none => simp [bind, Except.bind, pure, Except.pure]
    | some level => by_cases hunset : level = unset <;> simp [bind, Except.bind, pure, Except.pure, hunset]

namespace Root

/-! ## The handlers -/

/-- Handlers that are taken away one after the other are all gone in the end. -/
theorem foldl_erase_self (handlers : List Handler) : handlers.foldl List.erase handlers = [] := by
  induction handlers with
  | nil => rfl
  | cons h rest ih => rw [List.foldl_cons, List.erase_cons_head, ih]

/-- The root of a trace that starts at a level. -/
def startedAt (level : Level) : Root :=
  ⟨level, [.terminal (layoutFrom level)]⟩

/-- Nothing is left of the root as it was. -/
theorem setUp_eq (root : Root) (given : Option Level) (setting : Option String) :
    root.setUp given setting = (Level.start given setting).map startedAt := by
  unfold setUp clear add startedAt
  simp only [foldl_erase_self, List.nil_append]
  cases Level.start given setting <;> rfl

/-! ## The lines -/

/-- One handler shows one line of a record, if any. -/
theorem shown_startedAt (paint : Paint) (level : Level) (records : List LogRecord) :
    (startedAt level).shown paint records =
      (records.filter (·.shownFrom level)).filterMap fun r => (r.layOut paint (layoutFrom level)).toOption := by
  unfold shown startedAt
  rw [List.filterMap_eq_flatMap_toList]
  refine List.flatMap_congr fun r _ => ?_
  rw [List.filterMap_cons, Handler.show?]
  cases (r.layOut paint (layoutFrom level)).toOption <;> rfl

/-- Of records with a positive level, those from the level of the trace on come through. -/
theorem filter_shownFrom (level : Level) {records : List LogRecord} (h : ∀ r ∈ records, 0 < r.level) :
    records.filter (·.shownFrom level) = records.filter (level ≤ ·.level) := by
  refine List.filter_congr fun r hr => ?_
  simp [LogRecord.shownFrom, h r hr]

/-- Lines that are shown one after the other are a line for each record exactly when each has one. -/
theorem forall₂_filterMap_iff {α β : Type} {R : α → β → Prop} {f : α → Option β} {as : List α}
    (h : ∀ a ∈ as, ∀ b, f a = some b → R a b) :
    List.Forall₂ R as (as.filterMap f) ↔ ∀ a ∈ as, (f a).isSome = true := by
  refine ⟨fun hlines => List.filterMap_length_eq_length.mp hlines.length_eq.symm, fun hall => ?_⟩
  induction as with
  | nil => exact .nil
  | cons a as ih =>
    obtain ⟨ha, has⟩ := List.forall_mem_cons.mp h
    obtain ⟨hsome, hrest⟩ := List.forall_mem_cons.mp hall
    obtain ⟨b, hb⟩ := Option.isSome_iff_exists.mp hsome
    rw [List.filterMap_cons_some hb]
    exact .cons (ha b hb) (ih has hrest)

/-- The trace shows the records from its level on, a line for each, exactly when all of these can be shown. -/
theorem shown_startedAt_iff (paint : Paint) (level : Level) {records : List LogRecord}
    (h : ∀ r ∈ records, 0 < r.level) :
    List.Forall₂ (LogRecord.ShownAs paint level) (records.filter (level ≤ ·.level))
        ((startedAt level).shown paint records) ↔
      ∀ r ∈ records, level ≤ r.level → r.Showable level := by
  rw [shown_startedAt, filter_shownFrom level h, forall₂_filterMap_iff]
  · constructor
    · intro hall r hr hlevel
      have hsome := hall r (List.mem_filter.mpr ⟨hr, decide_eq_true hlevel⟩)
      rcases r.layOut_layoutFrom_cases paint level with ⟨hshow, -⟩ | ⟨-, p, hp⟩
      · exact hshow
      · rw [hp] at hsome
        cases hsome
    · intro hall r hr
      obtain ⟨hr, hlevel⟩ := List.mem_filter.mp hr
      rcases r.layOut_layoutFrom_cases paint level with ⟨-, line, hline, -⟩ | ⟨hhidden, -⟩
      · rw [hline]
        rfl
      · exact absurd (hall r hr (of_decide_eq_true hlevel)) hhidden
  · intro r _ line hline
    rcases r.layOut_layoutFrom_cases paint level with ⟨-, line', hline', hsays⟩ | ⟨-, p, hp⟩
    · rw [hline'] at hline
      cases hline
      exact hsays
    · rw [hp] at hline
      cases hline

/-- **A trace that has been set up** leaves the root one handler and the level that is wanted, unless a setting asks
for no level. It shows the records from that level on, a line for each and in order, if all of them can be shown. -/
theorem setUp_shows (root : Root) (given : Option Level) {setting : Option String} {asked : Option Level}
    (hasked : Level.ofSetting setting = .ok asked) :
    ∃ after, root.setUp given setting = .ok after ∧ after.handlers = [.terminal (layoutFrom after.level)] ∧
      (after.level = Level.wanted given asked ↔ ¬ (given = none ∧ asked = some Level.unset)) ∧
      (given = none → asked = some Level.unset → after.level = Level.critical) ∧
      ∀ paint records, (∀ r ∈ records, 0 < r.level) →
        (List.Forall₂ (LogRecord.ShownAs paint after.level) (records.filter (after.level ≤ ·.level))
            (after.shown paint records) ↔
          ∀ r ∈ records, after.level ≤ r.level → r.Showable after.level) := by
  rw [setUp_eq, Level.start_eq given hasked]
  refine ⟨_, rfl, rfl, ⟨fun hlevel hunset => ?_, fun hother => if_neg hother⟩,
    fun hgiven hunset => if_pos ⟨hgiven, hunset⟩,
    fun paint _ hpositive => shown_startedAt_iff paint _ hpositive⟩
  obtain ⟨rfl, rfl⟩ := hunset
  cases hlevel

/-- A setting that asks for warnings, with two handlers in the way: of two records the one that warns is shown. -/
theorem setUp_shows_warnings :
    let warn : LogRecord := ⟨30, "%d left", [.int 2], "sample", "/x/sample.py", 7, "run"⟩
    let note : LogRecord := ⟨20, "done", [], "sample", "/x/sample.py", 8, "run"⟩
    let root : Root := ⟨10, [.elsewhere "file", .terminal longLayout]⟩
    Level.ofSetting (some " Warn ") = .ok (some 30) ∧ ∃ after, root.setUp none (some " Warn ") = .ok after ∧
      after.level = 30 ∧ after.handlers = [.terminal (layoutFrom after.level)] ∧
      List.Forall₂ (LogRecord.ShownAs (.terminal true) 30) [warn]
        (after.shown (.terminal true) [note, warn, note]) := by
  intro warn note root
  have hasked : Level.ofSetting (some " Warn ") = .ok (some 30) := by decide +kernel
  obtain ⟨after, hafter, hone, hlevel, -, hlines⟩ := setUp_shows root none hasked
  have hwarning : after.level = 30 := hlevel.mpr (by decide)
  rw [hwarning] at hlines
  refine ⟨hasked, after, hafter, hwarning, hone,
    (hlines (.terminal true) [note, warn, note] (by decide)).mpr fun r hr hr30 => ?_⟩
  have hwarn : r = warn := by
    simp only [List.mem_cons, List.not_mem_nil, or_false] at hr
    rcases hr with rfl | rfl | rfl
    · exact absurd hr30 (by decide)
    · rfl
    · exact absurd hr30 (by decide)
  subst hwarn
  exact ⟨⟨"2 left", by decide +kernel⟩, .inl (by decide)⟩

/-- A setting that asks for no level asks for everything, and gets what is most severe alone. -/
theorem unset_asked_critical :
    Level.ofSetting (some "0") = .ok (some Level.unset) ∧ Level.wanted none (some Level.unset) = Level.unset ∧
      ∃ after, initial.setUp none (some "0") = .ok after ∧ after.level = Level.critical ∧
        after.level ≠ Level.wanted none (some Level.unset) := by
  have hasked : Level.ofSetting (some "0") = .ok (some Level.unset) := by decide +kernel
  refine ⟨hasked, rfl, startedAt .critical, ?_, rfl, by decide⟩
  rw [setUp_eq, Level.start_eq none hasked]
  rfl

end Root

end WordLint
