import WordLint.Proofs.Lint.Endings

/-!
# Runs that come to their end

A run that comes to its end got past every entry of its configuration, every pattern that it looked for and
the whole document (`lintText_completed`). Its configuration may well have entries that are refused, and
patterns that cannot be read as long as no check looks for them.

What such a run has to report is known beforehand: the refusals of the entries, and the words that are `found`
in the document.
-/

namespace WordLint

open Host (errorOf)

/-! ## What does not stop a run -/

/-- A run that comes to its end gets past all entries, and no listener refuses a pattern at any event. -/
theorem lintText_completed {html : String} {rules : List (Value × Value)}
    (h : (lintText html rules).result = .ok ()) :
    (∀ entry ∈ rules, entryError? entry = none) ∧
      (∀ e ∈ (Markup.read html).events, ∀ l ∈ rules.filterMap entryListener?, l.refusedAt? e = none) ∧
      (Markup.read html).fault = none := by
  rw [result_eq_ok_iff, errorOf_lintText, Option.or_eq_none_iff, Option.or_eq_none_iff] at h
  obtain ⟨hentries, hpatterns, hfault⟩ := h
  refine ⟨List.findSome?_eq_none_iff.mp hentries, fun e he => ?_, Option.map_eq_none_iff.mp hfault⟩
  have hevent := List.findSome?_eq_none_iff.mp (Option.map_eq_none_iff.mp hpatterns) e he
  rw [show subscriptionsOf rules = listening (rules.filterMap entryListener?) from rfl, receivers_listening] at hevent
  exact List.findSome?_eq_none_iff.mp hevent

/-! ## Entries -/

/-- What comes behind two runs comes behind the second one, when the first is a step. -/
theorem note_bind_assoc {α β : Type} (s : Step) (r : Run α) (f : α → Run β) :
    (((.note s : Run Unit) >>= fun _ => r) >>= f) = (.note s : Run Unit) >>= fun _ => r >>= f := by
  obtain ⟨steps, result⟩ := r
  cases result <;> rfl

/-- The diagnostic about options that are refused, if they are. -/
def Schema.refusalOf? (s : Schema) (v : Value) : Option Diagnostic :=
  if v.isAbsent then none
  else match s.read v with
    | .ok _ => none
    | .error _ => (s.refusal v).toOption.map (refusalDiagnostic s)

/-- The diagnostic that an entry of a configuration leads to. -/
def entryRefusal? (entry : Value × Value) : Option Diagnostic := do
  let rule ← ruleOf? entry.1
  rule.schema.refusalOf? (← rule.schema.resolve entry.2)

/-- The listener of an entry is that of the rule that blocks words. -/
theorem rule_of_entryListener? {entry : Value × Value} {l : Listener} (h : entryListener? entry = some l) :
    l.rule = "block-words" := by
  obtain ⟨rule, hrule, h⟩ := Option.bind_eq_some_iff.mp h
  obtain ⟨given, _, hlistener⟩ := Option.bind_eq_some_iff.mp h
  obtain rfl := eq_blockWords_of_ruleOf? hrule
  unfold Schema.listener? at hlistener
  split at hlistener
  · cases hlistener
  · split at hlistener
    · cases hlistener
      rfl
    · cases hlistener

/-- So is its refusal, and the message shows some options. -/
theorem refusal_of_entryRefusal? {entry : Value × Value} {d : Diagnostic} (h : entryRefusal? entry = some d) :
    ∃ v message, Schema.blockWords.refusal v = .ok message ∧ d = refusalDiagnostic Schema.blockWords message := by
  obtain ⟨rule, hrule, h⟩ := Option.bind_eq_some_iff.mp h
  obtain ⟨given, _, h⟩ := Option.bind_eq_some_iff.mp h
  obtain rfl := eq_blockWords_of_ruleOf? hrule
  unfold Schema.refusalOf? at h
  split at h
  · cases h
  · split at h
    · cases h
    · change (Schema.blockWords.refusal given).toOption.map (refusalDiagnostic Schema.blockWords) = some d at h
      cases hrefusal : Schema.blockWords.refusal given with
      | error e =>
        rw [hrefusal] at h
        cases h
      | ok message =>
        rw [hrefusal] at h
        cases h
        exact ⟨given, message, hrefusal, rfl⟩

/-- The listener of an entry joins those that have subscribed before. -/
theorem append_subscriptionsOf_cons (s : Subscriptions Listener) (entry : Value × Value)
    (rest : List (Value × Value)) :
    s ++ subscriptionsOf (entry :: rest) = subscribe s (entryListener? entry) ++ subscriptionsOf rest := by
  unfold subscriptionsOf subscribe
  rw [List.filterMap_cons]
  cases entryListener? entry with
  | none => rfl
  | some l => exact (List.append_assoc s [(Subscriptions.allEvents, l)] _).symm

/-- Give one rule of a configuration its options. -/
def listenEntry (entry : Value × Value) : Run (Option Listener) :=
  match ruleOf? entry.1 with
  | none => .fail (.unknownRule (ruleName entry.1))
  | some rule =>
    match rule.schema.resolve entry.2 with
    | none => do
      .note (.disabled rule.id)
      return none
    | some options => do
      .note (.initializing rule.id)
      rule.schema.listen options

/-- A configuration is gone through entry by entry. -/
theorem listenAll_cons (s : Subscriptions Listener) (entry : Value × Value) (rest : List (Value × Value)) :
    listenAll s (entry :: rest) = listenEntry entry >>= fun l => listenAll (subscribe s l) rest := by
  obtain ⟨key, value⟩ := entry
  rw [listenAll]
  unfold listenEntry
  dsimp only
  cases ruleOf? key with
  | none => rfl
  | some rule =>
    dsimp only
    cases rule.schema.resolve value with
    | none => rfl
    | some given => exact (note_bind_assoc _ _ _).symm

/-! ## What is found -/

/-- A word that a listener has found in an event. -/
structure Found where
  listener : Listener
  event : Event
  category : Option Category
  occurrence : Occurrence

/-- The diagnostic about a word that has been found. -/
def Found.diagnostic (f : Found) : Diagnostic :=
  f.listener.diagnosticOf f.event (Listener.messageOf f.event f.category f.occurrence)

/-- What a listener finds in an event: for each check, the occurrences of its patterns. -/
def Listener.found (l : Listener) (e : Event) : List Found :=
  (l.checks e).flatMap fun c =>
    ((compiled c.patterns).flatMap (·.occurrencesIn (searchedText c.text))).map (Found.mk l e c.category)

/-- What the listeners of a configuration find in a document. -/
def found (html : String) (rules : List (Value × Value)) : List Found :=
  (Markup.read html).events.flatMap fun e => (rules.filterMap entryListener?).flatMap (·.found e)

end WordLint
