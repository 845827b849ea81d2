import WordLint.Proofs.Lint.Completed

/-!
# The steps of a run

What a run that comes to its end does is all there is to say about it, so its steps are written down here once
(`lintText_takes`): the entries of the configuration one by one, then the events of the document, each of them
with the checks of all listeners. A check asks for its patterns, and goes on to report the words that it finds.

The patterns that are asked for and the trace are read off these steps, and so is the log (`log_lintText_found`).
-/

namespace WordLint

/-- A run comes to a value in exactly these steps. -/
def Recorded.Takes {α : Type} (r : Run α) (a : α) (steps : List Step) : Prop :=
  r = ⟨steps, .ok a⟩

open Recorded (Takes)

namespace Recorded.Takes

variable {α β : Type} {r : Run α} {f : α → Run β} {a : α} {b : β} {steps more : List Step}

theorem steps_eq (h : Takes r a steps) : r.steps = steps := by
  rw [h]

theorem pure (a : α) : Takes (Pure.pure a : Run α) a [] := rfl

theorem noted (s : Step) : Takes (Recorded.note s) () [s] := rfl

/-- One run behind another takes its steps behind it. -/
theorem bind (h : Takes r a steps) (h' : Takes (f a) b more) : Takes (r >>= f) b (steps ++ more) := by
  obtain rfl := h
  exact congrArg (fun run : Run β => (⟨steps ++ run.steps, run.result⟩ : Run β)) h'

/-- What comes behind a step. -/
theorem behind (s : Step) {f : Unit → Run β} (h : Takes (f ()) b more) :
    Takes (Recorded.note s >>= f) b (s :: more) :=
  (noted s).bind h

theorem ofExcept {ε : Type} (wrap : ε → LintError) {x : Except ε α} (h : x = .ok a) :
    Takes (Recorded.ofExcept wrap x) a [] := by
  subst h
  exact .pure a

end Recorded.Takes

/-! ## Checks -/

/-- The message about a word that has been found. -/
def Found.message (f : Found) : String :=
  Listener.messageOf f.event f.category f.occurrence

/-- The steps in which a word that has been found is reported. -/
def Found.steps (f : Found) : List Step :=
  [.finding f.listener.rule f.event f.message, .reported f.diagnostic]

namespace Listener

/-- What a listener finds in one check. -/
def foundBy (l : Listener) (e : Event) (c : Check) : List Found :=
  ((compiled c.patterns).flatMap (·.occurrencesIn (searchedText c.text))).map (Found.mk l e c.category)

/-- The steps of a check. -/
def checkSteps (l : Listener) (e : Event) (c : Check) : List Step :=
  c.patterns.map .pattern ++ (l.foundBy e c).flatMap Found.steps

/-- The steps in which a listener hears an event. -/
def hearSteps (l : Listener) (e : Event) : List Step :=
  (l.checks e).flatMap (l.checkSteps e)

/-- What a listener finds in an event it finds in one of the checks. -/
theorem found_eq (l : Listener) (e : Event) : l.found e = (l.checks e).flatMap (l.foundBy e) := rfl

theorem readPatterns_takes {patterns : List String} (h : Readable patterns) :
    Takes (readPatterns patterns) (compiled patterns) (patterns.map .pattern) := by
  induction patterns with
  | nil => exact .pure []
  | cons raw rest ih =>
    obtain ⟨⟨p, hp⟩, hrest⟩ := List.forall_mem_cons.mp h
    rw [compiled_cons_ok rest hp]
    have hothers : Takes (do return p :: (← readPatterns rest)) (p :: compiled rest)
        (rest.map .pattern ++ []) := (ih hrest).bind (.pure _)
    rw [List.append_nil] at hothers
    exact .behind _ ((Recorded.Takes.ofExcept LintError.pattern hp).bind hothers)

theorem report_takes (l : Listener) (e : Event) (found : List Found)
    (h : ∀ f ∈ found, f.listener = l ∧ f.event = e) :
    Takes (l.report e (found.map Found.message)) () (found.flatMap Found.steps) := by
  induction found with
  | nil => exact .pure ()
  | cons f rest ih =>
    obtain ⟨⟨rfl, rfl⟩, hrest⟩ := List.forall_mem_cons.mp h
    exact .behind _ (.behind _ (ih hrest))

theorem runCheck_takes (l : Listener) (e : Event) {c : Check} (h : Readable c.patterns) :
    Takes (l.runCheck e c) () (l.checkSteps e c) := by
  have hreport := report_takes l e (l.foundBy e c) fun f hf => by
    obtain ⟨_, _, rfl⟩ := List.mem_map.mp hf
    exact ⟨rfl, rfl⟩
  have hmessages : (l.foundBy e c).map Found.message =
      ((compiled c.patterns).flatMap (·.occurrencesIn (searchedText c.text))).map (messageOf e c.category) :=
    List.map_map
  rw [hmessages] at hreport
  exact (readPatterns_takes h).bind hreport

theorem runChecks_takes (l : Listener) (e : Event) {checks : List Check}
    (h : ∀ c ∈ checks, Readable c.patterns) :
    Takes (l.runChecks e checks) () (checks.flatMap (l.checkSteps e)) := by
  induction checks with
  | nil => exact .pure ()
  | cons c rest ih =>
    obtain ⟨hc, hrest⟩ := List.forall_mem_cons.mp h
    exact (runCheck_takes l e hc).bind (ih hrest)

/-- An event at which nothing is refused is heard to its end. -/
theorem hear_takes {l : Listener} {e : Event} (h : l.refusedAt? e = none) :
    Takes (l.hear e) () (l.hearSteps e) :=
  runChecks_takes l e (refusedAt?_eq_none_iff.mp h)

end Listener

/-! ## Documents -/

/-- The steps in which an event is delivered to some listeners. -/
def deliverySteps (ls : List Listener) (e : Event) : List Step :=
  .event e :: ls.flatMap (·.hearSteps e)

/-- The steps in which a document is read, and its events are delivered. -/
def playSteps (ls : List Listener) (html : String) : List Step :=
  .reading html.length (Markup.lineCount html) :: (Markup.read html).events.flatMap (deliverySteps ls)

theorem hearAll_takes {ls : List Listener} {e : Event} (h : ∀ l ∈ ls, l.refusedAt? e = none) :
    Takes (hearAll e ls) () (ls.flatMap (·.hearSteps e)) := by
  induction ls with
  | nil => exact .pure ()
  | cons l rest ih =>
    obtain ⟨hl, hrest⟩ := List.forall_mem_cons.mp h
    exact (Listener.hear_takes hl).bind (ih hrest)

theorem playEvents_takes {ls : List Listener} {es : List Event}
    (h : ∀ e ∈ es, ∀ l ∈ ls, l.refusedAt? e = none) :
    Takes (playEvents (listening ls) es) () (es.flatMap (deliverySteps ls)) := by
  induction es with
  | nil => exact .pure ()
  | cons e rest ih =>
    obtain ⟨he, hrest⟩ := List.forall_mem_cons.mp h
    have hevent : Takes (hearAll e ((listening ls).receivers e.kind)) () (ls.flatMap (·.hearSteps e)) := by
      rw [receivers_listening]
      exact hearAll_takes he
    exact .behind _ (hevent.bind (ih hrest))

theorem play_takes {ls : List Listener} {html : String}
    (h : ∀ e ∈ (Markup.read html).events, ∀ l ∈ ls, l.refusedAt? e = none)
    (hfault : (Markup.read html).fault = none) : Takes (play (listening ls) html) () (playSteps ls html) := by
  have hplay := (playEvents_takes h).bind (f := fun _ => (pure () : Run Unit)) (.pure ())
  rw [List.append_nil] at hplay
  unfold play
  dsimp only
  rw [hfault]
  exact .behind _ hplay

/-! ## Configurations -/

/-- The steps in which a rule is given its options. -/
def Schema.listenSteps (s : Schema) (v : Value) : List Step :=
  if v.isAbsent then [.unset s.rule]
  else match s.read v with
    | .ok options => [.listening s.rule (options.groups.map (·.1))]
    | .error o => .objection s.rule o :: .refused s.rule :: (s.refusalOf? v).toList.map .reported

/-- The steps in which an entry of a configuration is gone through. -/
def entrySteps (entry : Value × Value) : List Step :=
  match ruleOf? entry.1 with
  | none => []
  | some rule =>
    match rule.schema.resolve entry.2 with
    | none => [.disabled rule.id]
    | some options => .initializing rule.id :: rule.schema.listenSteps options

theorem listen_takes {s : Schema} {v : Value} (h : s.unshown? v = none) :
    Takes (s.listen v) (s.listener? v) (s.listenSteps v) := by
  unfold Schema.unshown? at h
  unfold Schema.listen Schema.listener? Schema.listenSteps Schema.refusalOf?
  by_cases habsent : v.isAbsent = true
  · rw [if_pos habsent, if_pos habsent, if_pos habsent]
    exact .behind _ (.pure none)
  · rw [if_neg habsent] at h
    rw [if_neg habsent, if_neg habsent, if_neg habsent, if_neg habsent]
    cases hread : s.read v with
    | ok o => exact .behind _ (.pure _)
    | error o =>
      rw [hread] at h
      cases hrefusal : s.refusal v with
      | error e =>
        rw [hrefusal] at h
        cases h
      | ok message =>
        have hmessage : Takes (Recorded.ofExcept LintError.numeral (Except.ok message)) message [] :=
          .ofExcept LintError.numeral rfl
        exact .behind _ (.behind _ (hmessage.bind (.behind _ (.pure none))))

theorem listenEntry_takes {entry : Value × Value} (h : entryError? entry = none) :
    Takes (listenEntry entry) (entryListener? entry) (entrySteps entry) := by
  unfold entryError? at h
  unfold listenEntry entryListener? entrySteps
  cases hrule : ruleOf? entry.1 with
  | none =>
    rw [hrule] at h
    cases h
  | some rule =>
    rw [hrule] at h
    dsimp only [Option.bind_eq_bind, Option.bind_some] at h ⊢
    cases hresolve : rule.schema.resolve entry.2 with
    | none => exact .behind _ (.pure none)
    | some given =>
      rw [hresolve] at h
      exact .behind _ (listen_takes (Option.map_eq_none_iff.mp h))

theorem listenAll_takes {rules : List (Value × Value)} (h : ∀ entry ∈ rules, entryError? entry = none)
    (s : Subscriptions Listener) :
    Takes (listenAll s rules) (s ++ subscriptionsOf rules) (rules.flatMap entrySteps) := by
  induction rules generalizing s with
  | nil =>
    rw [show s ++ subscriptionsOf [] = s from List.append_nil s]
    exact .pure s
  | cons entry rest ih =>
    obtain ⟨hentry, hrest⟩ := List.forall_mem_cons.mp h
    rw [listenAll_cons, append_subscriptionsOf_cons]
    exact (listenEntry_takes hentry).bind (ih hrest _)

/-! ## Whole runs -/

/-- The steps of a run up to the end of the document. -/
def bodySteps (html : String) (rules : List (Value × Value)) : List Step :=
  .linting html.length :: (rules.flatMap entrySteps ++ playSteps (rules.filterMap entryListener?) html)

/-- The steps of a run. -/
def runSteps (html : String) (rules : List (Value × Value)) : List Step :=
  bodySteps html rules ++ [.finished (diagnosticsOf (bodySteps html rules)).length]

/-- **A run that comes to its end** takes these steps. -/
theorem lintText_takes {html : String} {rules : List (Value × Value)}
    (h : (lintText html rules).result = .ok ()) : Takes (lintText html rules) () (runSteps html rules) := by
  obtain ⟨hentries, hrefused, hfault⟩ := lintText_completed h
  have hlisten := listenAll_takes hentries []
  rw [List.nil_append] at hlisten
  have hbody : Takes (lintBody html rules) () (bodySteps html rules) :=
    .behind _ (hlisten.bind (play_takes hrefused hfault))
  have hlog : (lintBody html rules).log = diagnosticsOf (bodySteps html rules) :=
    congrArg diagnosticsOf hbody.steps_eq
  unfold runSteps
  rw [← hlog]
  exact hbody.bind (.noted _)

/-! ## The log -/

theorem diagnosticsOf_flatMap {α : Type} (as : List α) (f : α → List Step) :
    diagnosticsOf (as.flatMap f) = as.flatMap fun a => diagnosticsOf (f a) :=
  List.filterMap_flatMap

/-- A check reports each word that it finds. -/
theorem Listener.diagnosticsOf_checkSteps (l : Listener) (e : Event) (c : Check) :
    diagnosticsOf (l.checkSteps e c) = (l.foundBy e c).map Found.diagnostic := by
  have hpatterns : diagnosticsOf (c.patterns.map .pattern) = [] := by
    unfold diagnosticsOf
    rw [List.filterMap_map]
    exact List.filterMap_eq_nil_iff.mpr fun _ _ => rfl
  unfold checkSteps
  rw [diagnosticsOf_append, hpatterns, List.nil_append, diagnosticsOf_flatMap, List.map_eq_flatMap]
  rfl

/-- A document reports what is found in it. -/
theorem diagnosticsOf_playSteps (html : String) (rules : List (Value × Value)) :
    diagnosticsOf (playSteps (rules.filterMap entryListener?) html) = (found html rules).map Found.diagnostic := by
  unfold found
  simp only [List.map_flatMap, Listener.found_eq, ← Listener.diagnosticsOf_checkSteps]
  refine (diagnosticsOf_flatMap _ (deliverySteps _)).trans (List.flatMap_congr fun e _ => ?_)
  refine (diagnosticsOf_flatMap _ (Listener.hearSteps · e)).trans (List.flatMap_congr fun l _ => ?_)
  exact diagnosticsOf_flatMap _ _

/-- A rule that is given its options reports that they are refused. -/
theorem Schema.diagnosticsOf_listenSteps (s : Schema) (v : Value) :
    diagnosticsOf (s.listenSteps v) = (s.refusalOf? v).toList := by
  unfold listenSteps refusalOf?
  by_cases habsent : v.isAbsent = true
  · rw [if_pos habsent, if_pos habsent]
    rfl
  · rw [if_neg habsent, if_neg habsent]
    cases s.read v with
    | ok options => rfl
    | error o => cases (s.refusal v).toOption <;> rfl

/-- An entry of a configuration reports its refusal. -/
theorem diagnosticsOf_entrySteps (entry : Value × Value) :
    diagnosticsOf (entrySteps entry) = (entryRefusal? entry).toList := by
  unfold entrySteps entryRefusal?
  cases ruleOf? entry.1 with
  | none => rfl
  | some rule =>
    dsimp only [Option.bind_eq_bind, Option.bind_some]
    cases rule.schema.resolve entry.2 with
    | none => rfl
    | some given => exact rule.schema.diagnosticsOf_listenSteps given

/-- **The log of a run that comes to its end**: the refusals of its configuration, and one finding for each word
that is found. -/
theorem log_lintText_found {html : String} {rules : List (Value × Value)}
    (h : (lintText html rules).result = .ok ()) :
    (lintText html rules).log = rules.filterMap entryRefusal? ++ (found html rules).map Found.diagnostic := by
  have hlog : (lintText html rules).log = diagnosticsOf (runSteps html rules) :=
    congrArg diagnosticsOf (lintText_takes h).steps_eq
  have hbody : diagnosticsOf (bodySteps html rules) =
      diagnosticsOf (rules.flatMap entrySteps ++ playSteps (rules.filterMap entryListener?) html) := rfl
  have hfinished (n : Nat) : diagnosticsOf [.finished n] = [] := rfl
  unfold runSteps at hlog
  rw [hlog, diagnosticsOf_append, hfinished, List.append_nil, hbody, diagnosticsOf_append, diagnosticsOf_flatMap,
    diagnosticsOf_playSteps, List.filterMap_eq_flatMap_toList]
  exact congrArg (· ++ _) (List.flatMap_congr fun entry _ => diagnosticsOf_entrySteps entry)

end WordLint
