import WordLint.Lint.Host
import WordLint.Proofs.Lint.Runs

/-!
# How a run ends

A run comes to its end, or stops at the first error that it meets. For runs that yield nothing, one behind
another stops where the first one does, and otherwise where the second one does (`errorOf_bind`); all laws
of this file are read off this one, from the patterns of a check up to a whole run (`errorOf_lintText`).

**The law** (`lintText_endings`): there are five endings, and each of them is given by a condition on the
configuration and the document alone. The rules are given their options first: an entry that names no
rule stops the run there, and so does one whose options are refused and hold an integer with too many
digits for the message. Then the events are heard, where a pattern that is refused stops the run when a
check looks for it. Last comes the fault of the document, if it has one: nothing takes that error up, so
a document alone can stop a run (`keyword_stops_run`).
-/

namespace WordLint

open Host (errorOf)

/-! ## Errors of runs behind each other -/

/-- A run that yields nothing, and one behind it: the first error counts. -/
theorem errorOf_bind {α : Type} (r : Run Unit) (f : Unit → Run α) :
    errorOf (r >>= f) = (errorOf r).or (errorOf (f ())) := by
  obtain ⟨steps, result⟩ := r
  cases result with
  | ok u => rfl
  | error e => rfl

/-- The log of a run that yields nothing, and one behind it: the second one counts when there is no error. -/
theorem log_bind {α : Type} (r : Run Unit) (f : Unit → Run α) :
    (r >>= f).log = r.log ++ if errorOf r = none then (f ()).log else [] := by
  obtain ⟨steps, result⟩ := r
  cases result with
  | ok u => exact diagnosticsOf_append steps (f u).steps
  | error e => exact (List.append_nil _).symm

theorem errorOf_note_bind {α : Type} (s : Step) (f : Unit → Run α) :
    errorOf (Recorded.note s >>= f) = errorOf (f ()) := by
  rw [errorOf_bind]
  rfl

/-- A run without an error comes to its value. -/
theorem result_eq_ok_iff {r : Run Unit} : r.result = .ok () ↔ errorOf r = none := by
  unfold errorOf
  cases r.result with
  | ok u => simp
  | error e => simp

theorem result_eq_error_iff {r : Run Unit} {e : LintError} :
    r.result = .error e ↔ errorOf r = some e := by
  unfold errorOf
  cases r.result with
  | ok u => simp
  | error e' => simp

/-! ## Patterns that are refused -/

/-- Why a pattern is refused, if it is. -/
def refusal? (raw : String) : Option Regex.Failure :=
  match Pattern.compile raw with
  | .ok _ => none
  | .error f => some f

theorem refusal?_eq_some_iff {raw : String} {f : Regex.Failure} :
    refusal? raw = some f ↔ Pattern.compile raw = .error f := by
  unfold refusal?
  cases Pattern.compile raw with
  | ok p => simp
  | error f' => simp

theorem refusal?_eq_none_iff {raw : String} :
    refusal? raw = none ↔ ∃ p, Pattern.compile raw = .ok p := by
  unfold refusal?
  cases Pattern.compile raw with
  | ok p => simp
  | error f => simp

namespace Listener

/-- The first pattern that is refused among those that an event is checked for. -/
def refusedAt? (l : Listener) (e : Event) : Option Regex.Failure :=
  (l.checks e).findSome? fun c => c.patterns.findSome? refusal?

/-- Reading patterns stops at the first one that is refused. -/
theorem errorOf_readPatterns (patterns : List String) :
    errorOf (readPatterns patterns) = (patterns.findSome? refusal?).map .pattern := by
  induction patterns with
  | nil => rfl
  | cons raw rest ih =>
    unfold readPatterns
    rw [errorOf_note_bind, List.findSome?_cons]
    cases hrefusal : refusal? raw with
    | some f =>
      rw [refusal?_eq_some_iff.mp hrefusal]
      rfl
    | none =>
      obtain ⟨p, hp⟩ := refusal?_eq_none_iff.mp hrefusal
      rw [hp, ← ih]
      -- the patterns behind are read, and `p` is put in front of them
      cases hrest : readPatterns rest with
      | mk steps result => cases result <;> rfl

/-- Reporting never stops. -/
theorem errorOf_report (l : Listener) (e : Event) (messages : List String) :
    errorOf (l.report e messages) = none := by
  induction messages with
  | nil => rfl
  | cons message rest ih =>
    unfold report
    rw [errorOf_note_bind, errorOf_note_bind]
    exact ih

/-- A check stops where reading its patterns does. -/
theorem errorOf_runCheck (l : Listener) (e : Event) (c : Check) :
    errorOf (l.runCheck e c) = (c.patterns.findSome? refusal?).map .pattern := by
  rw [← errorOf_readPatterns]
  unfold runCheck
  cases hread : readPatterns c.patterns with
  | mk steps result =>
    cases result with
    | error e => rfl
    | ok patterns => exact errorOf_report l e _

/-- Checks stop at the first pattern that is refused. -/
theorem errorOf_runChecks (l : Listener) (e : Event) (checks : List Check) :
    errorOf (l.runChecks e checks) =
      (checks.findSome? fun c => c.patterns.findSome? refusal?).map .pattern := by
  induction checks with
  | nil => rfl
  | cons c rest ih =>
    unfold runChecks
    rw [errorOf_bind, errorOf_runCheck, ih, List.findSome?_cons]
    cases c.patterns.findSome? refusal? <;> rfl

theorem errorOf_hear (l : Listener) (e : Event) :
    errorOf (l.hear e) = (l.refusedAt? e).map .pattern :=
  errorOf_runChecks l e (l.checks e)

/-- An event can be heard to its end when all patterns that it is checked for can be read. -/
theorem refusedAt?_eq_none_iff {l : Listener} {e : Event} :
    l.refusedAt? e = none ↔ ∀ c ∈ l.checks e, Readable c.patterns := by
  unfold refusedAt? Readable
  simp only [List.findSome?_eq_none_iff, refusal?_eq_none_iff]

/-- What is refused at an event is a pattern of one of the groups. -/
theorem exists_group_of_refusedAt? {l : Listener} {e : Event} {f : Regex.Failure}
    (h : l.refusedAt? e = some f) :
    ∃ g patterns raw, l.options.get g = some patterns ∧ raw ∈ patterns ∧
      Pattern.compile raw = .error f := by
  obtain ⟨c, hc, hrefused⟩ := List.exists_of_findSome?_eq_some h
  obtain ⟨raw, hraw, hf⟩ := List.exists_of_findSome?_eq_some hrefused
  obtain ⟨g, hg⟩ := exists_group_of_mem_checks hc
  exact ⟨g, c.patterns, raw, hg, hraw, refusal?_eq_some_iff.mp hf⟩

end Listener

/-! ## Documents -/

/-- The first pattern that is refused while listeners hear events. -/
def refusedIn? (s : Subscriptions Listener) (es : List Event) : Option Regex.Failure :=
  es.findSome? fun e => (s.receivers e.kind).findSome? (·.refusedAt? e)

theorem errorOf_hearAll (e : Event) (listeners : List Listener) :
    errorOf (hearAll e listeners) = (listeners.findSome? (·.refusedAt? e)).map .pattern := by
  induction listeners with
  | nil => rfl
  | cons l rest ih =>
    unfold hearAll
    rw [errorOf_bind, Listener.errorOf_hear, ih, List.findSome?_cons]
    cases l.refusedAt? e <;> rfl

theorem errorOf_playEvents (s : Subscriptions Listener) (es : List Event) :
    errorOf (playEvents s es) = (refusedIn? s es).map .pattern := by
  unfold refusedIn?
  induction es with
  | nil => rfl
  | cons e rest ih =>
    unfold playEvents
    rw [errorOf_note_bind, errorOf_bind, errorOf_hearAll, ih, List.findSome?_cons]
    cases (s.receivers e.kind).findSome? (·.refusedAt? e) <;> rfl

/-- A document is heard up to the first pattern that is refused, or else up to its fault. -/
theorem errorOf_play (s : Subscriptions Listener) (html : String) :
    errorOf (play s html) =
      ((refusedIn? s (Markup.read html).events).map .pattern).or
        ((Markup.read html).fault.map .markup) := by
  unfold play
  rw [errorOf_note_bind, errorOf_bind, errorOf_playEvents]
  cases (Markup.read html).fault <;> rfl

/-! ## Options -/

/-- Why the message about options that are refused cannot be written. -/
def Schema.unshown? (s : Schema) (v : Value) : Option Text.NumeralError :=
  if v.isAbsent then none
  else match s.read v with
    | .ok _ => none
    | .error _ =>
      match s.refusal v with
      | .ok _ => none
      | .error e => some e

/-- The listener that options lead to. -/
def Schema.listener? (s : Schema) (v : Value) : Option Listener :=
  if v.isAbsent then none
  else match s.read v with
    | .ok o => some ⟨s.rule, o⟩
    | .error _ => none

/-- A rule that is given options stops when they are refused and cannot be shown, and otherwise yields
the listener that they lead to. -/
theorem listen_result (s : Schema) (v : Value) :
    (s.listen v).result =
      match s.unshown? v with
      | some e => .error (.numeral e)
      | none => .ok (s.listener? v) := by
  unfold Schema.listen Schema.unshown? Schema.listener?
  by_cases habsent : v.isAbsent = true
  · rw [if_pos habsent, if_pos habsent, if_pos habsent]
    rfl
  · rw [if_neg habsent, if_neg habsent, if_neg habsent]
    cases s.read v with
    | ok o => rfl
    | error o => cases s.refusal v <;> rfl

/-! ## Configurations -/

/-- What an entry of a configuration stops a run with. -/
def entryError? (entry : Value × Value) : Option LintError :=
  match ruleOf? entry.1 with
  | none => some (.unknownRule (ruleName entry.1))
  | some rule => ((rule.schema.resolve entry.2).bind rule.schema.unshown?).map .numeral

/-- The listener that an entry of a configuration leads to. -/
def entryListener? (entry : Value × Value) : Option Listener := do
  let rule ← ruleOf? entry.1
  rule.schema.listener? (← rule.schema.resolve entry.2)

/-- The subscriptions that a configuration leads to. -/
def subscriptionsOf (rules : List (Value × Value)) : Subscriptions Listener :=
  (rules.filterMap entryListener?).map (Subscriptions.allEvents, ·)

/-- The first entry of a configuration stops the run, or its listener subscribes. -/
theorem listenAll_cons_result (s : Subscriptions Listener) (entry : Value × Value)
    (rest : List (Value × Value)) :
    (listenAll s (entry :: rest)).result =
      match entryError? entry with
      | some e => .error e
      | none => (listenAll (subscribe s (entryListener? entry)) rest).result := by
  obtain ⟨key, value⟩ := entry
  rw [listenAll]
  unfold entryError? entryListener?
  dsimp only
  cases ruleOf? key with
  | none => rfl
  | some rule =>
    dsimp only [Option.bind_eq_bind, Option.bind_some]
    cases rule.schema.resolve value with
    | none => rfl
    | some given =>
      have hlisten := listen_result rule.schema given
      simp only [Option.bind_some]
      cases hrun : rule.schema.listen given with
      | mk steps result =>
        rw [hrun] at hlisten
        dsimp only at hlisten
        cases hshown : rule.schema.unshown? given with
        | some e =>
          rw [hshown] at hlisten
          rw [hlisten]
          rfl
        | none =>
          rw [hshown] at hlisten
          rw [hlisten]
          rfl

/-- The rules of a configuration are given their options up to the first entry that stops the run. When
there is none, all listeners have subscribed to all events. -/
theorem listenAll_result (rules : List (Value × Value)) : ∀ s : Subscriptions Listener,
    (listenAll s rules).result =
      match rules.findSome? entryError? with
      | some e => .error e
      | none => .ok (s ++ subscriptionsOf rules) := by
  induction rules with
  | nil =>
    intro s
    rw [show s ++ subscriptionsOf [] = s from List.append_nil s]
    rfl
  | cons entry rest ih =>
    intro s
    rw [listenAll_cons_result, List.findSome?_cons]
    unfold subscriptionsOf
    rw [List.filterMap_cons]
    cases entryError? entry with
    | some e => rfl
    | none =>
      dsimp only
      rw [ih]
      cases entryListener? entry with
      | none => rfl
      | some l =>
        have hsubscribe : subscribe s (some l) ++ subscriptionsOf rest =
            s ++ (Subscriptions.allEvents, l) :: subscriptionsOf rest :=
          List.append_assoc s [(Subscriptions.allEvents, l)] (subscriptionsOf rest)
        rw [hsubscribe]
        rfl

/-! ## Whole runs -/

/-- **What stops a run**: the first entry of the configuration that cannot be dealt with, or else the first
pattern that is refused while the events are heard, or else the fault of the document. -/
theorem errorOf_lintText (html : String) (rules : List (Value × Value)) :
    errorOf (lintText html rules) =
      (rules.findSome? entryError?).or
        (((refusedIn? (subscriptionsOf rules) (Markup.read html).events).map .pattern).or
          ((Markup.read html).fault.map .markup)) := by
  have hbody : errorOf (lintBody html rules) =
      (rules.findSome? entryError?).or (errorOf (play (subscriptionsOf rules) html)) := by
    unfold lintBody
    rw [errorOf_note_bind]
    have hlisten := listenAll_result rules []
    cases hrun : listenAll [] rules with
    | mk steps result =>
      rw [hrun] at hlisten
      dsimp only at hlisten
      rw [hlisten]
      cases rules.findSome? entryError? <;> rfl
  unfold lintText
  dsimp only
  rw [errorOf_bind, hbody, errorOf_play]
  exact Option.or_none

/-! ## The endings -/

/-- The options of an entry are refused, and the message that is to show them cannot be written. -/
def Unshown (entry : Value × Value) (e : Text.NumeralError) : Prop :=
  ∃ rule given o, ruleOf? entry.1 = some rule ∧ rule.schema.resolve entry.2 = some given ∧
    given.isAbsent = false ∧ rule.schema.read given = .error o ∧ rule.schema.refusal given = .error e

/-- An entry that a run gets past: it names a rule, and options that are refused can be shown. -/
def Settled (entry : Value × Value) : Prop :=
  (∃ rule, ruleOf? entry.1 = some rule) ∧ ∀ e, ¬ Unshown entry e

/-- A pattern of the options that one of the entries comes to. -/
def Configured (rules : List (Value × Value)) (raw : String) : Prop :=
  ∃ entry ∈ rules, ∃ rule o g patterns, ruleOf? entry.1 = some rule ∧ rule.schema.Accepts entry.2 o ∧
    o.get g = some patterns ∧ raw ∈ patterns

theorem unshown?_eq_some_iff {s : Schema} {v : Value} {e : Text.NumeralError} :
    s.unshown? v = some e ↔
      v.isAbsent = false ∧ ∃ o, s.read v = .error o ∧ s.refusal v = .error e := by
  unfold Schema.unshown?
  cases v.isAbsent with
  | true => simp
  | false =>
    cases s.read v with
    | ok o => simp
    | error o => cases s.refusal v <;> simp

theorem entryError?_numeral_iff {entry : Value × Value} {e : Text.NumeralError} :
    entryError? entry = some (.numeral e) ↔ Unshown entry e := by
  unfold entryError? Unshown
  cases ruleOf? entry.1 with
  | none => simp
  | some rule =>
    simp only [Option.map_eq_some_iff, Option.bind_eq_some_iff, unshown?_eq_some_iff]
    constructor
    · rintro ⟨n, ⟨given, hgiven, habsent, o, ho, hn⟩, heq⟩
      cases heq
      exact ⟨rule, given, o, rfl, hgiven, habsent, ho, hn⟩
    · rintro ⟨_, given, o, hrule, hgiven, habsent, ho, he⟩
      cases hrule
      exact ⟨e, ⟨given, hgiven, habsent, o, ho, he⟩, rfl⟩

theorem entryError?_unknownRule_iff {entry : Value × Value} {name : String} :
    entryError? entry = some (.unknownRule name) ↔
      ruleOf? entry.1 = none ∧ ruleName entry.1 = name := by
  unfold entryError?
  cases ruleOf? entry.1 with
  | none => simp
  | some rule =>
    simp only [Option.map_eq_some_iff, reduceCtorEq, false_and, and_false, exists_false]

/-- The two errors that an entry can stop a run with. -/
theorem entryError?_cases {entry : Value × Value} {e : LintError} (h : entryError? entry = some e) :
    (∃ name, e = .unknownRule name) ∨ ∃ n, e = .numeral n := by
  unfold entryError? at h
  split at h
  · cases h
    exact .inl ⟨_, rfl⟩
  · obtain ⟨n, _, rfl⟩ := Option.map_eq_some_iff.mp h
    exact .inr ⟨n, rfl⟩

theorem entryError?_eq_none_iff {entry : Value × Value} :
    entryError? entry = none ↔ Settled entry := by
  constructor
  · intro h
    refine ⟨?_, fun e he => ?_⟩
    · cases hrule : ruleOf? entry.1 with
      | some rule => exact ⟨rule, rfl⟩
      | none => rw [entryError?_unknownRule_iff.mpr ⟨hrule, rfl⟩] at h; cases h
    · rw [entryError?_numeral_iff.mpr he] at h
      cases h
  · rintro ⟨⟨rule, hrule⟩, hshown⟩
    rw [Option.eq_none_iff_forall_ne_some]
    intro e he
    rcases entryError?_cases he with ⟨name, rfl⟩ | ⟨n, rfl⟩
    · rw [(entryError?_unknownRule_iff.mp he).1] at hrule
      cases hrule
    · exact hshown n (entryError?_numeral_iff.mp he)

/-- A configuration stops a run at the first entry that is not settled. -/
theorem stopped_iff {rules : List (Value × Value)} {e : LintError} :
    rules.findSome? entryError? = some e ↔
      ∃ before entry after, rules = before ++ entry :: after ∧ (∀ x ∈ before, Settled x) ∧
        entryError? entry = some e := by
  rw [List.findSome?_eq_some_iff]
  simp only [entryError?_eq_none_iff]
  constructor
  · rintro ⟨before, entry, after, hrules, herror, hbefore⟩
    exact ⟨before, entry, after, hrules, hbefore, herror⟩
  · rintro ⟨before, entry, after, hrules, hbefore, herror⟩
    exact ⟨before, entry, after, hrules, herror, hbefore⟩

theorem not_stopped_iff {rules : List (Value × Value)} :
    rules.findSome? entryError? = none ↔ ∀ entry ∈ rules, Settled entry := by
  simp only [List.findSome?_eq_none_iff, entryError?_eq_none_iff]

/-- A listener that an entry leads to has the options that the entry comes to. -/
theorem accepts_of_entryListener? {entry : Value × Value} {l : Listener}
    (h : entryListener? entry = some l) :
    ∃ rule, ruleOf? entry.1 = some rule ∧ rule.schema.Accepts entry.2 l.options := by
  unfold entryListener? at h
  obtain ⟨rule, hrule, h⟩ := Option.bind_eq_some_iff.mp h
  obtain ⟨given, hgiven, h⟩ := Option.bind_eq_some_iff.mp h
  unfold Schema.listener? at h
  split at h
  · cases h
  · split at h
    · rename_i o ho
      cases h
      exact ⟨rule, hrule, given, hgiven, ho⟩
    · cases h

/-- What is refused while the events are heard is a pattern of the configuration. -/
theorem configured_of_refusedIn? {rules : List (Value × Value)} {es : List Event} {f : Regex.Failure}
    (h : refusedIn? (subscriptionsOf rules) es = some f) :
    ∃ raw, Configured rules raw ∧ Pattern.compile raw = .error f := by
  obtain ⟨e, _, h⟩ := List.exists_of_findSome?_eq_some h
  obtain ⟨l, hl, h⟩ := List.exists_of_findSome?_eq_some h
  obtain ⟨g, patterns, raw, hg, hraw, hf⟩ := Listener.exists_group_of_refusedAt? h
  have hmem : ∃ name, (name, l) ∈ subscriptionsOf rules := by
    unfold Subscriptions.receivers at hl
    rcases List.mem_append.mp hl with hl | hl <;>
    · unfold Subscriptions.under at hl
      obtain ⟨⟨name, l'⟩, hmem, hname⟩ := List.mem_filterMap.mp hl
      split at hname
      · cases hname
        exact ⟨name, hmem⟩
      · cases hname
  obtain ⟨name, hmem⟩ := hmem
  obtain ⟨l', hl', heq⟩ := List.mem_map.mp hmem
  cases heq
  obtain ⟨entry, hentry, hlistener⟩ := List.mem_filterMap.mp hl'
  obtain ⟨rule, hrule, haccepts⟩ := accepts_of_entryListener? hlistener
  exact ⟨raw, ⟨entry, hentry, rule, l.options, g, patterns, hrule, haccepts, hg, hraw⟩, hf⟩

/-- **The endings of a run.** A run stops at an unknown rule exactly when an entry names none and all
entries before it are settled, and the error names the first such entry. It stops at a numeral exactly
when the first entry that is not settled cannot be shown. When all entries are settled it stops at the
first pattern that is refused while the events are heard, which is a pattern of the configuration; or
else at the fault of the document; and where there is neither it comes to its end. -/
theorem lintText_endings (html : String) (rules : List (Value × Value)) :
    (∀ name, (lintText html rules).result = .error (.unknownRule name) ↔
      ∃ before entry after, rules = before ++ entry :: after ∧ (∀ x ∈ before, Settled x) ∧
        ruleOf? entry.1 = none ∧ ruleName entry.1 = name) ∧
    (∀ e, (lintText html rules).result = .error (.numeral e) ↔
      ∃ before entry after, rules = before ++ entry :: after ∧ (∀ x ∈ before, Settled x) ∧
        Unshown entry e) ∧
    (∀ f, (lintText html rules).result = .error (.pattern f) ↔
      (∀ entry ∈ rules, Settled entry) ∧
        refusedIn? (subscriptionsOf rules) (Markup.read html).events = some f) ∧
    (∀ f, refusedIn? (subscriptionsOf rules) (Markup.read html).events = some f →
      ∃ raw, Configured rules raw ∧ Pattern.compile raw = .error f) ∧
    (∀ m, (lintText html rules).result = .error (.markup m) ↔
      (∀ entry ∈ rules, Settled entry) ∧
        refusedIn? (subscriptionsOf rules) (Markup.read html).events = none ∧
        (Markup.read html).fault = some m) ∧
    ((lintText html rules).result = .ok () ↔
      (∀ entry ∈ rules, Settled entry) ∧
        refusedIn? (subscriptionsOf rules) (Markup.read html).events = none ∧
        (Markup.read html).fault = none) := by
  have hrun := errorOf_lintText html rules
  have hentry : ∀ e, rules.findSome? entryError? = some e →
      (∃ name, e = .unknownRule name) ∨ ∃ n, e = .numeral n := by
    intro e he
    obtain ⟨_, _, _, _, _, herror⟩ := stopped_iff.mp he
    exact entryError?_cases herror
  simp only [result_eq_error_iff, result_eq_ok_iff, ← entryError?_unknownRule_iff,
    ← entryError?_numeral_iff, hrun]
  generalize hrefused : refusedIn? (subscriptionsOf rules) (Markup.read html).events = refused
  generalize (Markup.read html).fault = fault
  refine ⟨fun name => ?_, fun e => ?_, fun f => ?_, fun f hf => ?_, fun m => ?_, ?_⟩
  · rw [← stopped_iff]
    cases rules.findSome? entryError? <;> cases refused <;> cases fault <;> simp
  · rw [← stopped_iff]
    cases rules.findSome? entryError? <;> cases refused <;> cases fault <;> simp
  · rw [← not_stopped_iff]
    cases hstop : rules.findSome? entryError? with
    | some e => rcases hentry e hstop with ⟨name, rfl⟩ | ⟨n, rfl⟩ <;> simp
    | none => cases refused <;> cases fault <;> simp
  · exact configured_of_refusedIn? (hrefused.trans hf)
  · rw [← not_stopped_iff]
    cases hstop : rules.findSome? entryError? with
    | some e => rcases hentry e hstop with ⟨name, rfl⟩ | ⟨n, rfl⟩ <;> simp
    | none => cases refused <;> cases fault <;> simp
  · rw [← not_stopped_iff]
    cases rules.findSome? entryError? <;> cases refused <;> cases fault <;> simp

/-- Whatever the document and the other options are, a rule that does not exist is named. -/
theorem lintText_endings_unknown :
    (lintText "<![x[" [(.str "block-words", .dict [(.str "all", .list [.str "("])]),
      (.str "nope", .none)]).result = .error (.unknownRule "nope") := by
  have hsettled : Settled (.str "block-words", .dict [(.str "all", .list [.str "("])]) := by
    refine ⟨⟨_, ruleOf?_blockWords⟩, ?_⟩
    rintro e ⟨rule, given, o, hrule, hgiven, _, hread, _⟩
    rw [ruleOf?_blockWords] at hrule
    cases hrule
    cases hgiven
    cases hread
  have hnone : ruleOf? (.str "nope") = none := by
    unfold ruleOf? findRule? catalogue
    simp only [Value.str?, Option.bind_some]
    rw [List.find?_cons_of_neg]
    · rfl
    · decide
  refine ((lintText_endings _ _).1 "nope").mpr
    ⟨[(.str "block-words", .dict [(.str "all", .list [.str "("])])], (.str "nope", .none), [], rfl, ?_,
      hnone, rfl⟩
  intro entry hentry
  rw [List.mem_singleton.mp hentry]
  exact hsettled

/-- A section with an unknown keyword stops a run without any rule, and so with an error that is neither
about a rule nor about a pattern. -/
theorem keyword_stops_run :
    (lintText "<![x[" []).result = .error (.markup (.keywordUnknown ['x'])) ∧
      ¬ ((lintText "<![x[" []).result = .ok () ∨
        (∃ name, (lintText "<![x[" []).result = .error (.unknownRule name)) ∨
          ∃ f, (lintText "<![x[" []).result = .error (.pattern f)) := by
  have hfirst : Markup.Piece.first none '<' ['!', '[', 'x', '['] = .error (.keywordUnknown ['x']) := rfl
  have hread : Markup.read "<![x[" = ⟨[], some (.keywordUnknown ['x'])⟩ := by
    unfold Markup.read
    rw [show "<![x[".toList = ['<', '!', '[', 'x', '['] from rfl, Markup.parts_fault hfirst]
    rfl
  have hresult : (lintText "<![x[" []).result = .error (.markup (.keywordUnknown ['x'])) := by
    rw [result_eq_error_iff, errorOf_lintText, hread]
    rfl
  rw [hresult]
  simp

end WordLint
