import WordLint.Proofs.Trace.Readings

/-!
# How the trace tells about diagnostics

A diagnostic that is added to the log leaves a note. A finding leaves another one right before it, with the same
place and message, and options that are refused do not. Notes of other kinds may stand before and behind, as many
as the document and the memory of patterns lead to, but never between the two.

`Woven` says this of notes: some blocks stand among them in order, and all that stands between the blocks is about
something else. It goes along with steps that are put one behind another, so the steps of a run are gone through
once (`runSteps_tell`).

**The law** (`trace_accounts`): for a run that comes to its end, whatever patterns are remembered, the trace is woven
of one block for each diagnostic of the log, in the order of the log: two notes for a finding, and one for a refusal.
-/

namespace WordLint

/-! ## Notes about diagnostics -/

namespace Note

/-- The note about a finding, in the words of the listener. -/
def ofFinding (d : Diagnostic) : Note :=
  ⟨.trace, s!"{d.rule} at {d.line}:{d.col}: {d.message}"⟩

/-- The note says that a diagnostic is added to the log. -/
def isAdding (n : Note) : Bool := n.opensWith "Adding ["

/-- The note is that of a listener that has found something. -/
def isFinding (n : Note) : Bool := n.opensWith "block-words at "

/-- The note is about something else. -/
def isOther (n : Note) : Bool := !n.isAdding && !n.isFinding

end Note

/-! ## Notes with blocks among them -/

/-- Some blocks stand in order among notes that are about something else. -/
inductive Woven : List Note → List (List Note) → Prop
  | nil : Woven [] []
  | other {n : Note} {notes : List Note} {blocks : List (List Note)} (hn : n.isOther = true)
      (h : Woven notes blocks) : Woven (n :: notes) blocks
  | block (block : List Note) {notes : List Note} {blocks : List (List Note)} (h : Woven notes blocks) :
      Woven (block ++ notes) (block :: blocks)

namespace Woven

variable {notes more : List Note} {blocks blocks' : List (List Note)}

theorem append (h : Woven notes blocks) (h' : Woven more blocks') : Woven (notes ++ more) (blocks ++ blocks') := by
  induction h with
  | nil => exact h'
  | other hn _ ih => exact .other hn ih
  | block b _ ih =>
    rw [List.append_assoc]
    exact .block b ih

/-- Leaving out notes between the blocks does not matter. -/
theorem filter {p : Note → Bool} (h : Woven notes blocks) (hp : ∀ block ∈ blocks, ∀ n ∈ block, p n = true) :
    Woven (notes.filter p) blocks := by
  induction h with
  | nil => exact .nil
  | other hn _ ih =>
    rw [List.filter_cons]
    split
    · exact .other hn (ih hp)
    · exact ih hp
  | block b _ ih =>
    obtain ⟨hb, hrest⟩ := List.forall_mem_cons.mp hp
    rw [List.filter_append, List.filter_eq_self.mpr hb]
    exact .block b (ih hrest)

/-- Notes about something else are woven of no block. -/
theorem others (h : ∀ n ∈ notes, n.isOther = true) : Woven notes [] := by
  induction notes with
  | nil => exact .nil
  | cons n rest ih =>
    obtain ⟨hn, hrest⟩ := List.forall_mem_cons.mp h
    exact .other hn (ih hrest)

end Woven

/-! ## Steps that tell about diagnostics -/

/-- A step neither finds nor adds anything, and no other rule speaks in it. -/
structure Step.Silent (s : Step) : Prop where
  usual : s.Usual
  finding : ∀ rule e message, s ≠ .finding rule e message
  reported : ∀ d, s ≠ .reported d

/-- A step in which no rule speaks is silent unless it adds a diagnostic. -/
theorem Step.Silent.unspoken {s : Step} (hspeaker : s.speaker? = none) (hdiagnostic : s.diagnostic? = none) :
    s.Silent where
  usual := .unspoken hspeaker
  finding := by
    rintro rule e message rfl
    cases hspeaker
  reported := by
    rintro d rfl
    cases hdiagnostic

/-- The notes of such a step are about something else. -/
theorem Step.Silent.isOther {s : Step} (hs : s.Silent) {c : PatternCache} {n : Note} (hn : n ∈ notesFrom c [s]) :
    n.isOther = true := by
  have hopens := Note.opens_of_mem_notesFrom hs.usual hn
  have hne : s.opening ≠ "Adding [" ∧ s.opening ≠ "block-words at " := by
    cases s with
    | finding rule e message => exact absurd rfl (hs.finding rule e message)
    | reported d => exact absurd rfl (hs.reported d)
    | objection rule o => cases o <;> simp [Step.opening]
    | _ => simp [Step.opening]
  have hadding : n.isAdding = false := Note.not_opensWith hopens (by decide) hne.1
  have hfinding : n.isFinding = false := Note.not_opensWith hopens (by decide) hne.2
  unfold Note.isOther
  rw [hadding, hfinding]
  rfl

/-- The notes about a word that has been found. -/
def Found.notes (f : Found) : List Note :=
  [.ofFinding f.diagnostic, .ofDiagnostic f.diagnostic]

/-- The notes of steps behind others are those that follow when the first steps' patterns are remembered. -/
theorem notesFrom_append (c : PatternCache) (steps more : List Step) :
    notesFrom c (steps ++ more) = notesFrom c steps ++ notesFrom (c.after (askedFor steps)) more := by
  induction steps generalizing c with
  | nil => rfl
  | cons s rest ih =>
    cases s with
    | pattern raw =>
      rw [List.cons_append, notesFrom, notesFrom, ih, List.append_assoc]
      rfl
    | _ =>
      refine (congrArg (_ ++ ·) (ih c)).trans ?_
      rw [← List.append_assoc]
      rfl

/-- Some steps tell about diagnostics in these blocks, whatever patterns are remembered. -/
def Tells (steps : List Step) (blocks : List (List Note)) : Prop :=
  ∀ c : PatternCache, Woven (notesFrom c steps) blocks

namespace Tells

variable {steps more : List Step} {blocks blocks' : List (List Note)}

theorem nil : Tells [] [] := fun _ => .nil

theorem append (h : Tells steps blocks) (h' : Tells more blocks') : Tells (steps ++ more) (blocks ++ blocks') := by
  intro c
  rw [notesFrom_append]
  exact (h c).append (h' _)

theorem flatMap {α : Type} {as : List α} {f : α → List Step} {g : α → List (List Note)}
    (h : ∀ a ∈ as, Tells (f a) (g a)) : Tells (as.flatMap f) (as.flatMap g) := by
  induction as with
  | nil => exact .nil
  | cons a rest ih =>
    obtain ⟨ha, hrest⟩ := List.forall_mem_cons.mp h
    exact ha.append (ih hrest)

theorem map {α : Type} {as : List α} {f : α → List Step} {g : α → List Note}
    (h : ∀ a ∈ as, Tells (f a) [g a]) : Tells (as.flatMap f) (as.map g) := by
  rw [List.map_eq_flatMap]
  exact .flatMap h

/-- Steps that neither find nor add anything tell nothing. -/
theorem silent (h : ∀ s ∈ steps, s.Silent) : Tells steps [] := by
  induction steps with
  | nil => exact .nil
  | cons s rest ih =>
    obtain ⟨hs, hrest⟩ := List.forall_mem_cons.mp h
    have hfirst : Tells [s] [] := fun c => .others fun n hn => hs.isOther hn
    exact hfirst.append (ih hrest)

/-- A step that neither finds nor adds anything, in front of others. -/
theorem behind {s : Step} (hs : s.Silent) (h : Tells steps blocks) : Tells (s :: steps) blocks :=
  (silent (List.forall_mem_singleton.mpr hs)).append h

/-- A diagnostic that is added without a finding. -/
theorem reported (d : Diagnostic) : Tells [.reported d] [[Note.ofDiagnostic d]] :=
  fun _ => .block _ .nil

/-- A finding with its diagnostic. -/
theorem found (f : Found) : Tells f.steps [f.notes] :=
  fun _ => .block [_, _] .nil

end Tells

/-! ## What a run tells -/

/-- A check tells what it finds. -/
theorem Listener.checkSteps_tell (l : Listener) (e : Event) (c : Check) :
    Tells (l.checkSteps e c) ((l.foundBy e c).map Found.notes) := by
  have hpatterns : Tells (c.patterns.map .pattern) [] := .silent fun s hs => by
    obtain ⟨raw, _, rfl⟩ := List.mem_map.mp hs
    exact .unspoken rfl rfl
  exact hpatterns.append (.map fun f _ => .found f)

/-- A document tells what is found in it. -/
theorem playSteps_tell (html : String) (rules : List (Value × Value)) :
    Tells (playSteps (rules.filterMap entryListener?) html) ((found html rules).map Found.notes) := by
  unfold found
  simp only [Listener.found_eq, List.map_flatMap]
  refine .behind (.unspoken rfl rfl) (.flatMap fun e _ => ?_)
  refine .behind (.unspoken rfl rfl) (.flatMap fun l _ => ?_)
  exact .flatMap fun c _ => l.checkSteps_tell e c

/-- A rule that is given its options tells that they are refused. -/
theorem Schema.listenSteps_tell {s : Schema} (hs : s.rule = "block-words") (v : Value) :
    Tells (s.listenSteps v) ((s.refusalOf? v).toList.map fun d => [.ofDiagnostic d]) := by
  have hspoken {step : Step} (h : step.speaker? = some s.rule)
      (hfinding : ∀ rule e message, step ≠ .finding rule e message) : step.Silent :=
    ⟨.spoken h hs, hfinding, by rintro d rfl; cases h⟩
  unfold Schema.listenSteps Schema.refusalOf?
  by_cases habsent : v.isAbsent = true
  · rw [if_pos habsent, if_pos habsent]
    exact .behind (hspoken rfl fun _ _ _ h => by cases h) .nil
  · rw [if_neg habsent, if_neg habsent]
    cases s.read v with
    | ok options => exact .behind (hspoken rfl fun _ _ _ h => by cases h) .nil
    | error o =>
      refine .behind (.unspoken rfl rfl) (.behind (hspoken rfl fun _ _ _ h => by cases h) ?_)
      rw [List.map_eq_flatMap]
      exact .map fun d _ => .reported d

/-- An entry of a configuration tells that its options are refused. -/
theorem entrySteps_tell (entry : Value × Value) :
    Tells (entrySteps entry) ((entryRefusal? entry).toList.map fun d => [.ofDiagnostic d]) := by
  unfold entrySteps entryRefusal?
  cases hrule : ruleOf? entry.1 with
  | none => exact .nil
  | some rule =>
    obtain rfl := eq_blockWords_of_ruleOf? hrule
    dsimp only [Option.bind_eq_bind, Option.bind_some]
    cases (Rule.blockWords Schema.blockWords).schema.resolve entry.2 with
    | none => exact .behind (.unspoken rfl rfl) .nil
    | some given =>
      exact .behind (.unspoken rfl rfl) (Schema.listenSteps_tell (s := Schema.blockWords) rfl given)

/-- The notes about the diagnostics of a run, by diagnostic. -/
def blocksOf (html : String) (rules : List (Value × Value)) : List (List Note) :=
  (rules.filterMap entryRefusal?).map (fun d => [.ofDiagnostic d]) ++ (found html rules).map Found.notes

/-- All of them are of the finest level. -/
theorem level_of_mem_blocksOf {html : String} {rules : List (Value × Value)} {block : List Note}
    (hblock : block ∈ blocksOf html rules) {n : Note} (hn : n ∈ block) : n.level = .trace := by
  obtain hblock | hblock := List.mem_append.mp hblock
  · obtain ⟨d, _, rfl⟩ := List.mem_map.mp hblock
    obtain rfl := List.mem_singleton.mp hn
    rfl
  · obtain ⟨f, _, rfl⟩ := List.mem_map.mp hblock
    obtain rfl | rfl := List.mem_pair.mp hn
    · rfl
    · rfl

/-- **A run** tells about its refusals, and then about what it finds. -/
theorem runSteps_tell (html : String) (rules : List (Value × Value)) :
    Tells (runSteps html rules) (blocksOf html rules) := by
  have hentries : Tells (rules.flatMap entrySteps)
      ((rules.filterMap entryRefusal?).map fun d => [.ofDiagnostic d]) := by
    rw [List.filterMap_eq_flatMap_toList, List.map_flatMap]
    exact .flatMap fun entry _ => entrySteps_tell entry
  have hbody : Tells (bodySteps html rules) (blocksOf html rules) :=
    .behind (.unspoken rfl rfl) (hentries.append (playSteps_tell html rules))
  have hfinished : Tells [.finished (diagnosticsOf (bodySteps html rules)).length] [] :=
    .behind (.unspoken rfl rfl) .nil
  have hrun := hbody.append hfinished
  rw [List.append_nil] at hrun
  exact hrun

/-! ## The law -/

/-- Refusals and findings are errors of the rule that blocks words. -/
theorem severity_of_mem_log {html : String} {rules : List (Value × Value)}
    (h : (lintText html rules).result = .ok ()) {d : Diagnostic} (hd : d ∈ (lintText html rules).log) :
    d.severity = .error ∧ d.rule = "block-words" := by
  rw [log_lintText_found h] at hd
  obtain hd | hd := List.mem_append.mp hd
  · obtain ⟨entry, _, hentry⟩ := List.mem_filterMap.mp hd
    obtain ⟨v, message, _, rfl⟩ := refusal_of_entryRefusal? hentry
    exact ⟨rfl, rfl⟩
  · obtain ⟨f, hf, rfl⟩ := List.mem_map.mp hd
    obtain ⟨e, _, hf⟩ := List.mem_flatMap.mp hf
    obtain ⟨l, hl, hf⟩ := List.mem_flatMap.mp hf
    rw [Listener.found_eq] at hf
    obtain ⟨c, _, hf⟩ := List.mem_flatMap.mp hf
    obtain ⟨o, _, rfl⟩ := List.mem_map.mp hf
    exact ⟨rfl, rule_of_listener l hl⟩

/-- **The trace accounts for every diagnostic.** A run that comes to its end leaves the refusals of its configuration
and behind them its findings in the log. Among its notes that pass the finest level, whatever patterns are remembered,
there is one block for each diagnostic, in the order of the log, and nothing else says that something is found or
added: a refusal has the note that it is added, and a finding has that note and right before it the one of the
listener. -/
theorem trace_accounts (c : PatternCache) (html : String) (rules : List (Value × Value))
    (h : (lintText html rules).result = .ok ()) :
    let refusals := rules.filterMap entryRefusal?
    let findings := (found html rules).map Found.diagnostic
    (lintText html rules).log = refusals ++ findings ∧
      Woven ((notesFrom c (lintText html rules).steps).filter (Level.trace ≤ ·.level))
        (refusals.map (fun d => [.ofDiagnostic d]) ++ findings.map fun d => [.ofFinding d, .ofDiagnostic d]) ∧
      ∀ d ∈ (lintText html rules).log,
        Note.ofDiagnostic d = ⟨.trace, s!"Adding [error] {d.line}:{d.col}: {Text.quoted d.message}"⟩ ∧
          Note.ofFinding d = ⟨.trace, s!"block-words at {d.line}:{d.col}: {d.message}"⟩ := by
  intro refusals findings
  refine ⟨log_lintText_found h, ?_, fun d hd => ?_⟩
  · rw [(lintText_takes h).steps_eq, List.map_map]
    refine (runSteps_tell html rules c).filter fun block hblock n hn => decide_eq_true ?_
    exact (level_of_mem_blocksOf hblock hn).ge
  · obtain ⟨hseverity, hrule⟩ := severity_of_mem_log h hd
    unfold Note.ofDiagnostic Note.ofFinding
    rw [hseverity, hrule]
    exact ⟨rfl, rfl⟩

/-- A word that is found twice in a text: the notes of two findings, and nothing of the kind besides. -/
theorem trace_accounts_twice :
    let rules : List (Value × Value) := [(.str "block-words", .dict [(.str "text", .list [.str "a"])])]
    let message := "Blocked text word from /a/g detected: \"a\""
    let blocks : List (List Note) := [
      [⟨.trace, "block-words at 1:1: " ++ message⟩, ⟨.trace, "Adding [error] 1:1: " ++ Text.quoted message⟩],
      [⟨.trace, "block-words at 1:1: " ++ message⟩, ⟨.trace, "Adding [error] 1:1: " ++ Text.quoted message⟩]]
    (lintText "ana" rules).result = .ok () ∧
      Woven ((notesFrom [] (lintText "ana" rules).steps).filter (Level.trace ≤ ·.level)) blocks := by
  intro rules message blocks
  have hresult : (lintText "ana" rules).result = .ok () := by decide +kernel
  have hblocks : (rules.filterMap entryRefusal?).map (fun d => [Note.ofDiagnostic d]) ++
      ((found "ana" rules).map Found.diagnostic).map (fun d => [.ofFinding d, .ofDiagnostic d]) = blocks := by
    decide +kernel
  refine ⟨hresult, ?_⟩
  rw [← hblocks]
  exact (trace_accounts [] "ana" rules hresult).2.1

end WordLint
