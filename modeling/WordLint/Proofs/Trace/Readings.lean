import WordLint.Proofs.Pattern.Remembering
import WordLint.Proofs.Trace.Openings

/-!
# Which patterns the trace says are read

A run asks for the patterns of each check of each event, in order; `reached` lists them. A pattern that is
not remembered is read, and that leaves a note of its own kind.

**The laws of the memory in a run** (`memory_transparent`): whatever has been asked for before, the answers and
what patterns find are those without a memory. And a run that comes to its end, asks for no more different
patterns than are remembered and for none that was asked for before it, leaves exactly one note for each of
them, in the order in which they are first asked for.

It is put together from the patterns that a run asks for (`lintText_asks`), which are read off its steps, and from
the notes about readings among the others (`readings_notesFrom`). No other note can be taken for one, since notes of
other kinds begin otherwise.
-/

namespace WordLint

open Host (errorOf)

/-! ## Notes about readings -/

/-- The pattern that a step asks for. -/
def Step.asked? : Step → Option String
  | .pattern raw => some raw
  | _ => none

/-- The patterns that some steps ask for, in order. -/
def askedFor (steps : List Step) : List String :=
  steps.filterMap Step.asked?

namespace Note

/-- The note is about a pattern that has to be read. -/
def isReading (n : Note) : Bool :=
  "Compiling blocked pattern ".toList.isPrefixOf n.text.toList

theorem isReading_ofPattern (raw : String) : (ofPattern raw).isReading = true := by
  unfold isReading ofPattern
  dsimp only
  rw [String.toList_append, List.isPrefixOf_iff_prefix]
  exact List.prefix_append _ _

/-- No step but a reading leaves a note about one. -/
theorem not_isReading_of_mem {s : Step} (hs : s.Usual) {n : Note} (h : n ∈ ofStep s) : n.isReading = false := by
  have hreading : "Compiling blocked pattern " ∈ Step.openings := by decide
  refine not_opensWith (opens_of_mem hs h) hreading ?_
  cases s with
  | pattern raw => cases h
  | objection rule o => cases o <;> simp [Step.opening]
  | _ => simp [Step.opening]

end Note

/-- **The notes about readings** are those about the patterns that are not remembered. -/
theorem readings_notesFrom (c : PatternCache) {steps : List Step} (h : ∀ s ∈ steps, s.Usual) :
    (notesFrom c steps).filter Note.isReading = (c.misses (askedFor steps)).map Note.ofPattern := by
  induction steps generalizing c with
  | nil => rfl
  | cons s rest ih =>
    obtain ⟨hs, hrest⟩ := List.forall_mem_cons.mp h
    cases hasked : s.asked? with
    | some raw =>
      obtain rfl : s = .pattern raw := by
        cases s <;> cases hasked
        rfl
      rw [notesFrom, List.filter_append, ih _ hrest]
      show _ = List.map _ (PatternCache.misses c (raw :: askedFor rest))
      rw [PatternCache.misses, List.map_append]
      refine congrArg (· ++ _) ?_
      split
      · exact List.filter_cons_of_pos (Note.isReading_ofPattern raw)
      · rfl
    | none =>
      have hnotes : notesFrom c (s :: rest) = (Note.ofStep s).toList ++ notesFrom c rest := by
        cases s <;> first | cases hasked; done | rfl
      have hquiet : (Note.ofStep s).toList.filter Note.isReading = [] := by
        rw [List.filter_eq_nil_iff]
        intro n hn
        rw [Note.not_isReading_of_mem hs (Option.mem_toList.mp hn)]
        exact Bool.false_ne_true
      have hskip : askedFor (s :: rest) = askedFor rest := List.filterMap_cons_none hasked
      rw [hnotes, List.filter_append, hquiet, List.nil_append, ih c hrest, hskip]

/-! ## What a run asks for -/

/-- A run comes to a value and asks for these patterns, and no other rule speaks in it. -/
structure Asks {α : Type} (r : Run α) (a : α) (raws : List String) : Prop where
  result : r.result = .ok a
  asked : askedFor r.steps = raws
  usual : ∀ s ∈ r.steps, s.Usual

theorem askedFor_append (steps more : List Step) : askedFor (steps ++ more) = askedFor steps ++ askedFor more :=
  List.filterMap_append

theorem askedFor_flatMap {α : Type} (f : α → List Step) (as : List α) :
    askedFor (as.flatMap f) = as.flatMap fun a => askedFor (f a) :=
  List.filterMap_flatMap

/-- Steps that ask for nothing. -/
theorem askedFor_eq_nil {steps : List Step} (h : ∀ s ∈ steps, s.asked? = none) : askedFor steps = [] :=
  List.filterMap_eq_nil_iff.mpr h

namespace Listener

/-- The patterns that a listener asks for at an event. -/
def reachedAt (l : Listener) (e : Event) : List String :=
  (l.checks e).flatMap (·.patterns)

/-- A check asks for its patterns, and what it reports asks for nothing. -/
theorem askedFor_checkSteps (l : Listener) (e : Event) (c : Check) : askedFor (l.checkSteps e c) = c.patterns := by
  have hpatterns : askedFor (c.patterns.map .pattern) = c.patterns := by
    unfold askedFor
    rw [List.filterMap_map]
    exact List.filterMap_some
  have hfound : askedFor ((l.foundBy e c).flatMap Found.steps) = [] := by
    refine askedFor_eq_nil (List.forall_mem_flatMap.mpr fun f _ => ?_)
    exact List.forall_mem_cons.mpr ⟨rfl, List.forall_mem_singleton.mpr rfl⟩
  unfold checkSteps
  rw [askedFor_append, hpatterns, hfound, List.append_nil]

theorem askedFor_hearSteps (l : Listener) (e : Event) : askedFor (l.hearSteps e) = l.reachedAt e := by
  unfold hearSteps reachedAt
  simp only [askedFor_flatMap, askedFor_checkSteps]

end Listener

/-- An entry asks for nothing. -/
theorem askedFor_entrySteps (entry : Value × Value) : askedFor (entrySteps entry) = [] := by
  have hlisten (s : Schema) (v : Value) : ∀ step ∈ s.listenSteps v, step.asked? = none := by
    unfold Schema.listenSteps
    split
    · exact List.forall_mem_singleton.mpr rfl
    · cases s.read v with
      | ok options => exact List.forall_mem_singleton.mpr rfl
      | error o =>
        refine List.forall_mem_cons.mpr ⟨rfl, List.forall_mem_cons.mpr ⟨rfl, fun step h => ?_⟩⟩
        obtain ⟨d, _, rfl⟩ := List.mem_map.mp h
        rfl
  refine askedFor_eq_nil ?_
  unfold entrySteps
  split
  · exact fun s hs => absurd hs List.not_mem_nil
  · split
    · exact List.forall_mem_singleton.mpr rfl
    · exact List.forall_mem_cons.mpr ⟨rfl, hlisten _ _⟩

/-- The patterns that a run asks for: event by event, those of the checks of each listener. -/
def reached (html : String) (rules : List (Value × Value)) : List String :=
  (Markup.read html).events.flatMap fun e => (rules.filterMap entryListener?).flatMap (·.reachedAt e)

theorem askedFor_runSteps (html : String) (rules : List (Value × Value)) :
    askedFor (runSteps html rules) = reached html rules := by
  have hdelivery (e : Event) : askedFor (deliverySteps (rules.filterMap entryListener?) e) =
      (rules.filterMap entryListener?).flatMap (·.reachedAt e) := by
    show askedFor ((rules.filterMap entryListener?).flatMap (·.hearSteps e)) = _
    simp only [askedFor_flatMap, Listener.askedFor_hearSteps]
  have hentries : askedFor (rules.flatMap entrySteps) = [] := by
    simp only [askedFor_flatMap, askedFor_entrySteps, List.flatMap_eq_nil_iff, implies_true]
  calc askedFor (runSteps html rules)
      = askedFor (bodySteps html rules) ++ [] := askedFor_append _ _
    _ = askedFor (rules.flatMap entrySteps) ++ askedFor (playSteps (rules.filterMap entryListener?) html) := by
        rw [List.append_nil]
        exact askedFor_append _ _
    _ = askedFor ((Markup.read html).events.flatMap (deliverySteps (rules.filterMap entryListener?))) := by
        rw [hentries]
        rfl
    _ = reached html rules := by
        rw [askedFor_flatMap]
        simp only [hdelivery]
        rfl

/-- **A run that comes to its end** asks for the patterns that it reaches, and all of them can be read. -/
theorem lintText_asks {html : String} {rules : List (Value × Value)} (h : (lintText html rules).result = .ok ()) :
    Asks (lintText html rules) () (reached html rules) ∧ Readable (reached html rules) := by
  have hsteps := (lintText_takes h).steps_eq
  refine ⟨⟨h, ?_, ?_⟩, fun raw hraw => ?_⟩
  · rw [hsteps, askedFor_runSteps]
  · rw [hsteps]
    exact usual_runSteps html rules
  · obtain ⟨e, he, hraw⟩ := List.mem_flatMap.mp hraw
    obtain ⟨l, hl, hraw⟩ := List.mem_flatMap.mp hraw
    obtain ⟨c, hc, hraw⟩ := List.mem_flatMap.mp hraw
    exact Listener.refusedAt?_eq_none_iff.mp ((lintText_completed h).2.1 e he l hl) c hc raw hraw

/-! ## The laws of the memory -/

/-- **Nobody can tell that patterns are remembered**, but for the trace, which has one note for each pattern
that a run reaches, when the run asks for no more than can be remembered and for none of those before. -/
theorem memory_transparent :
    (∀ before raws, PatternCache.answers (.after [] before) raws = raws.map Pattern.compile) ∧
    (∀ before text patterns,
      (PatternCache.occurrences (.after [] before) text patterns).1 = occurrences text patterns) ∧
    ∀ before html rules, (lintText html rules).result = .ok () →
      (reached html rules).eraseDups.length ≤ PatternCache.capacity → (∀ raw ∈ reached html rules, raw ∉ before) →
      ((notesFrom (.after [] before) (lintText html rules).steps).filter (Level.trace ≤ ·.level)).filter
          Note.isReading =
        (reached html rules).eraseDups.map Note.ofPattern := by
  have hfaithful (before : List String) : PatternCache.Faithful (.after [] before) :=
    PatternCache.faithful_nil.after before
  refine ⟨fun before => (hfaithful before).answers_eq, fun before => (hfaithful before).occurrences_eq, ?_⟩
  intro before html rules hresult hfew hnew
  obtain ⟨hasks, hreadable⟩ := lintText_asks hresult
  have hmisses := PatternCache.misses_after before [] (reached html rules)
    (fun raw hraw => PatternCache.reads_iff.mpr (hreadable raw hraw)) hfew hnew
  rw [List.append_nil] at hmisses
  rw [List.filter_comm, readings_notesFrom _ hasks.usual, hasks.asked, hmisses]
  simp [Note.ofPattern]

/-- A pattern in two spellings, one of them in the configuration twice, and another one: three notes. -/
theorem memory_transparent_two_spellings :
    let rules : List (Value × Value) := [(.str "block-words",
      .dict [(.str "text", .list [.str "A", .str "a", .str "A"]), (.str "all", .list [.str "b"])])]
    PatternCache.answers (.after [] ["("]) ["(", "A"] = ["(", "A"].map Pattern.compile ∧
    (PatternCache.occurrences (.after [] ["("]) "ab" ["A"]).1 = occurrences "ab" ["A"] ∧
    (lintText "ab" rules).result = .ok () ∧
    ((notesFrom (.after [] ["("]) (lintText "ab" rules).steps).filter (Level.trace ≤ ·.level)).filter
        Note.isReading =
      [Note.ofPattern "A", Note.ofPattern "a", Note.ofPattern "b"] := by
  intro rules
  have hresult : (lintText "ab" rules).result = .ok () := by decide +kernel
  have hreached : reached "ab" rules = ["A", "a", "A", "b"] := by decide +kernel
  have hdistinct : (reached "ab" rules).eraseDups = ["A", "a", "b"] := by
    rw [hreached]
    rfl
  obtain ⟨hanswers, hoccurrences, hnotes⟩ := memory_transparent
  refine ⟨hanswers _ _, hoccurrences _ _ _, hresult, ?_⟩
  rw [hnotes ["("] "ab" rules hresult (by rw [hdistinct]; decide) (by rw [hreached]; decide), hdistinct]
  rfl

end WordLint
