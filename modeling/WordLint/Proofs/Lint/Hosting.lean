import WordLint.Proofs.Lint.Outcomes
import WordLint.Proofs.Markup.Delivery

/-!
# What a host reports over time

A host is given options and documents in any order. Its log tells the whole story: the refusals of options,
and a block for each document that was read.

**The law** (`host_log`): the log only grows, and only at its end. A value that a rule is given adds at most
one diagnostic, and a document adds the reports of the rules that listen: event by event in the order of the
document, and for each event rule by rule in the order in which they were given their options, what each of
them reports when it hears that event alone. A rule that is given no options, or options that are refused,
has no part in later blocks, and a document that is read twice adds its block twice.

The invariant is `Host.Serves`: the subscriptions are those of the rules that listen, in order, each to all
events. A step keeps it (`Serves.act`), and so does a sequence of steps (`serves_after`).

A host is also a parser with the rules as its receivers (`read_eq_parse`), whatever the parser has read
before.
-/

namespace WordLint

open Recorded

namespace Host

/-! ## Steps -/

/-- Something that is done with a host. -/
inductive Action where
  | attach (s : Schema) (v : Value)
  | read (html : String)

/-- The host after a step, whether or not it was stopped. -/
def act (h : Host) : Action → Host
  | .attach s v => (h.attach s v).1
  | .read html => (h.read html).1

/-- The host after some steps. -/
def after (h : Host) (actions : List Action) : Host :=
  actions.foldl act h

/-- Nothing stops a step but a message that cannot be written: patterns of options that are accepted can be
read, and a document can be read to its end. -/
def Action.Completes : Action → Prop
  | .attach s v => ∀ o, s.Admits v o → o.Readable
  | .read html => (Markup.read html).fault = none

/-- The listener that a step leads to. -/
def Action.listener? : Action → Option Listener
  | .attach s v => (s.read v).toOption.map fun o => ⟨s.rule, o⟩
  | .read _ => none

/-- The rules that listen after some steps, in the order in which they were given their options. -/
def listenersOf (actions : List Action) : List Listener :=
  actions.filterMap Action.listener?

/-- What listeners report about a document: event by event, and for each event one listener after the
other, what it reports when it hears that event alone. -/
def block (ls : List Listener) (html : String) : Log :=
  (Markup.read html).events.flatMap fun e => ls.flatMap fun l => (l.hear e).log

theorem listener?_attach (s : Schema) (v : Value) :
    (Action.attach s v).listener? = (s.read v).toOption.map fun o => ⟨s.rule, o⟩ :=
  rfl

theorem act_read (h : Host) (html : String) : h.act (.read html) = (h.read html).1 :=
  rfl

theorem listener?_of_admits {s : Schema} {v : Value} {o : Options} (h : s.Admits v o) :
    (Action.attach s v).listener? = some ⟨s.rule, o⟩ := by
  rw [listener?_attach, Schema.read_eq_ok_iff.mpr h]
  rfl

/-- Only options that are accepted make a rule listen. -/
theorem listener?_of_not_admits {s : Schema} {v : Value} (h : ∀ o, ¬ s.Admits v o) :
    (Action.attach s v).listener? = none := by
  obtain ⟨objection, hobjection⟩ := Schema.exists_objection h
  rw [listener?_attach, hobjection]
  rfl

/-! ## Options -/

/-- Options that are refused add at most their one diagnostic, and none when the message about them cannot
be written. -/
theorem attach_of_not_admits (h : Host) {s : Schema} {v : Value} (hv : ∀ o, ¬ s.Admits v o) :
    ∃ log : Log, log.length ≤ 1 ∧ (h.attach s v).1 = ⟨h.subscriptions, h.log ++ log⟩ := by
  by_cases habsent : v.Absent
  · rw [attach_absent h s habsent]
    exact ⟨[], Nat.zero_le 1, by rw [List.append_nil]⟩
  · cases hmessage : s.refusal v with
    | ok message =>
      rw [attach_of_yields h (listen_refused_yields habsent hv hmessage)]
      exact ⟨[refusalDiagnostic s message], Nat.le_refl 1, rfl⟩
    | error failure =>
      obtain ⟨objection, hobjection⟩ := Schema.exists_objection hv
      refine ⟨[], Nat.zero_le 1, ?_⟩
      unfold Host.attach Schema.listen
      rw [if_neg (mt Value.isAbsent_iff.mp habsent), hobjection]
      dsimp only
      rw [hmessage]
      rfl

/-- Whatever a rule is given, at most one diagnostic is added. -/
theorem attach_log (h : Host) (s : Schema) (v : Value) :
    ∃ log : Log, log.length ≤ 1 ∧ (h.attach s v).1.log = h.log ++ log := by
  by_cases hadmits : ∃ o, s.Admits v o
  · obtain ⟨o, ho⟩ := hadmits
    rw [attach_admitted h ho]
    exact ⟨[], Nat.zero_le 1, (List.append_nil _).symm⟩
  · obtain ⟨log, hlength, hattach⟩ := attach_of_not_admits h (not_exists.mp hadmits)
    exact ⟨log, hlength, by rw [hattach]⟩

/-! ## The invariant -/

/-- These rules listen, in this order, and their patterns can be read. -/
structure Serves (ls : List Listener) (h : Host) : Prop where
  subscriptions : h.subscriptions = listening ls
  readable : ∀ l ∈ ls, l.options.Readable

theorem serves_empty : Serves [] empty :=
  ⟨rfl, fun _ hl => nomatch hl⟩

/-- A document that can be read adds the block of the rules that listen, and changes nothing else. -/
theorem Serves.read {ls : List Listener} {h : Host} (hs : Serves ls h) {html : String}
    (hhtml : (Markup.read html).fault = none) :
    h.read html = (⟨h.subscriptions, h.log ++ block ls html⟩, none) := by
  have hblock : block ls html =
      (Markup.read html).events.flatMap fun e => ls.flatMap fun l => eventFindings l.rule l.options e := by
    unfold block
    refine List.flatMap_congr fun e _ => List.flatMap_congr fun l hl => ?_
    exact (l.hear_yields e (hs.readable l hl)).log
  have hplay := play_of_playEvents hhtml
    (playEvents_listening_yields ls (Markup.read html).events hs.readable)
  unfold Host.read errorOf
  rw [hs.subscriptions, hblock]
  dsimp only
  rw [hplay.result, hplay.log]

/-- Options that are accepted add their listener. -/
theorem Serves.attach_admitted {ls : List Listener} {h : Host} (hs : Serves ls h) {s : Schema}
    {v : Value} {o : Options} (hv : s.Admits v o) (ho : o.Readable) :
    Serves (ls ++ [⟨s.rule, o⟩]) (h.attach s v).1 := by
  rw [WordLint.attach_admitted h hv, hs.subscriptions]
  constructor
  · exact (listening_append ls _).symm
  · intro l hl
    rcases List.mem_append.mp hl with hl | hl
    · exact hs.readable l hl
    · rw [List.mem_singleton.mp hl]
      exact ho

/-- Without options that are accepted the same rules listen as before. -/
theorem Serves.attach_other {ls : List Listener} {h : Host} (hs : Serves ls h) {s : Schema}
    {v : Value} (hv : ∀ o, ¬ s.Admits v o) : Serves ls (h.attach s v).1 := by
  obtain ⟨log, _, hattach⟩ := attach_of_not_admits h hv
  rw [hattach]
  exact ⟨hs.subscriptions, hs.readable⟩

/-- A step keeps the invariant. -/
theorem Serves.act {ls : List Listener} {h : Host} (hs : Serves ls h) {a : Action} (ha : a.Completes) :
    Serves (ls ++ a.listener?.toList) (h.act a) := by
  cases a with
  | read html =>
    rw [act_read, hs.read ha, Action.listener?, Option.toList_none, List.append_nil]
    exact ⟨hs.subscriptions, hs.readable⟩
  | attach s v =>
    by_cases hadmits : ∃ o, s.Admits v o
    · obtain ⟨o, ho⟩ := hadmits
      rw [listener?_of_admits ho]
      exact hs.attach_admitted ho (ha o ho)
    · have hnot := not_exists.mp hadmits
      rw [listener?_of_not_admits hnot, Option.toList_none, List.append_nil]
      exact hs.attach_other hnot

/-- The rules that listen after some steps are those of `listenersOf`. -/
theorem Serves.after {actions : List Action} :
    ∀ {ls : List Listener} {h : Host}, Serves ls h → (∀ a ∈ actions, a.Completes) →
      Serves (ls ++ listenersOf actions) (h.after actions) := by
  induction actions with
  | nil =>
    intro ls h hs _
    rw [listenersOf, List.filterMap_nil, List.append_nil]
    exact hs
  | cons a rest ih =>
    intro ls h hs hall
    have hstep := hs.act (hall a List.mem_cons_self)
    have hrest := ih hstep fun b hb => hall b (List.mem_cons_of_mem _ hb)
    have hlisteners : listenersOf (a :: rest) = a.listener?.toList ++ listenersOf rest := by
      unfold listenersOf
      cases ha : a.listener? <;> simp [ha]
    rw [hlisteners, ← List.append_assoc]
    exact hrest

theorem serves_after {actions : List Action} (h : ∀ a ∈ actions, a.Completes) :
    Serves (listenersOf actions) (empty.after actions) :=
  serves_empty.after h

/-! ## A host as a parser -/

/-- An effect on subscriptions and a log does what a run does, with the same error when it is stopped. -/
def Shows {ω : Type} (error? : ω → Option LintError) (x : EStateM ω (Subscriptions Listener × Log) Unit)
    (s : Subscriptions Listener) (r : Run Unit) : Prop :=
  ∀ log : Log, match r.result with
    | .ok _ => x (s, log) = .ok () (s, log ++ r.log)
    | .error e => ∃ stop, error? stop = some e ∧ x (s, log) = .error stop (s, log ++ r.log)

section Shows

variable {ω : Type} {error? : ω → Option LintError} {s : Subscriptions Listener} {r r' : Run Unit}
  {x y : EStateM ω (Subscriptions Listener × Log) Unit}

theorem Shows.pure : Shows error? (Pure.pure ()) s (Pure.pure ()) := by
  intro log
  exact congrArg (fun log => EStateM.Result.ok () (s, log)) (List.append_nil log).symm

/-- One after the other: the second one begins with the log of the first. -/
theorem Shows.bind (hx : Shows error? x s r) (hy : Shows error? y s r') :
    Shows error? (do x; y) s (do r; r') := by
  obtain ⟨steps, result⟩ := r
  obtain ⟨steps', result'⟩ := r'
  intro log
  have hfirst := hx log
  have hlog : ∀ log : Log, log ++ diagnosticsOf (steps ++ steps') =
      log ++ diagnosticsOf steps ++ diagnosticsOf steps' := by
    intro log
    rw [diagnosticsOf_append, List.append_assoc]
  cases result with
  | error e =>
    obtain ⟨stop, hstop, hrun⟩ := hfirst
    exact ⟨stop, hstop, Parser.bind_of_error hrun⟩
  | ok u =>
    have hsecond := hy (log ++ diagnosticsOf steps)
    cases result' with
    | ok u' =>
      exact (Parser.bind_of_ok hfirst).trans (hsecond.trans (congrArg _ (congrArg _ (hlog log).symm)))
    | error e =>
      obtain ⟨stop, hstop, hrun⟩ := hsecond
      exact ⟨stop, hstop, (Parser.bind_of_ok hfirst).trans
        (hrun.trans (congrArg _ (congrArg _ (hlog log).symm)))⟩

/-- A step that adds no diagnostic does not show. -/
theorem Shows.quiet {step : Step} (hstep : step.diagnostic? = none) (hx : Shows error? x s r) :
    Shows error? x s (do Recorded.note step; r) := by
  have hnote : Shows error? (Pure.pure ()) s (Recorded.note step) := by
    intro log
    rw [(Yields.noted hstep).result, (Yields.noted hstep).log, List.append_nil]
    rfl
  exact pure_bind () (fun _ => x) ▸ hnote.bind hx

end Shows

/-- The error of a run that a parser is stopped by. Every place is in a line of the document, so the last
case does not come up. -/
def stopError? : Parser.Stop LintError → Option LintError
  | .receiver e => some e
  | .markup fault => some (.markup fault)
  | .noSuchLine _ => none

theorem callAll_shows (s : Subscriptions Listener) (e : Event) (ls : List Listener) :
    Shows some (Subscriptions.callAll Listener.call e ls) s (hearAll e ls) := by
  induction ls with
  | nil => exact .pure
  | cons l rest ih =>
    refine Shows.bind ?_ ih
    intro log
    unfold Listener.call
    dsimp only
    cases (l.hear e).result with
    | ok u => rfl
    | error error => exact ⟨error, rfl, rfl⟩

theorem delivery_shows (s : Subscriptions Listener) (e : Event) :
    Shows stopError? (Parser.delivery Listener.call e) s (hearAll e (s.receivers e.kind)) := by
  intro log
  have hcalls := callAll_shows s e (s.receivers e.kind) log
  unfold Parser.delivery EStateM.adaptExcept
  rw [Subscriptions.announce_apply]
  revert hcalls
  cases (hearAll e (s.receivers e.kind)).result with
  | ok u =>
    intro hcalls
    dsimp only at hcalls ⊢
    rw [hcalls]
  | error error =>
    rintro ⟨stop, hstop, hcalls⟩
    cases hstop
    dsimp only
    rw [hcalls]
    exact ⟨.receiver error, rfl, rfl⟩

theorem deliveries_shows (s : Subscriptions Listener) (es : List Event) :
    Shows stopError? (Parser.deliveries Listener.call es) s (playEvents s es) := by
  induction es with
  | nil => exact .pure
  | cons e rest ih => exact .quiet rfl ((delivery_shows s e).bind ih)

/-- What is heard of a document is played. -/
theorem hearing_shows (s : Subscriptions Listener) (html : String) :
    Shows stopError? (Parser.hearing Listener.call (Markup.read html)) s (play s html) := by
  refine .quiet rfl ((deliveries_shows s _).bind ?_)
  intro log
  cases (Markup.read html).fault with
  | none => exact (Shows.pure : Shows stopError? _ s _) log
  | some fault => exact ⟨.markup fault, rfl, congrArg _ (congrArg _ (List.append_nil log).symm)⟩

/-- **A host reads a document as a parser does** whose receivers are its rules: the same is added to the
log, and the same error stops the two. -/
theorem read_eq_parse (h : Host) (html : String) (p : Parser Listener Log)
    (hp : p.outside = (h.subscriptions, h.log)) :
    match (h.read html).2 with
    | none => Parser.seen (Parser.parse Listener.call html p) =
        .ok () (h.subscriptions, (h.read html).1.log)
    | some e => ∃ stop, stopError? stop = some e ∧
        Parser.seen (Parser.parse Listener.call html p) =
          .error stop (h.subscriptions, (h.read html).1.log) := by
  have hshows := hearing_shows h.subscriptions html h.log
  rw [Parser.seen_parse, hp]
  unfold Host.read errorOf
  dsimp only
  cases hresult : (play h.subscriptions html).result with
  | ok u =>
    rw [hresult] at hshows
    exact hshows
  | error e =>
    rw [hresult] at hshows
    exact hshows

/-! ## The log -/

/-- Whatever is done, the log only grows: what stands in it stays at its front. -/
theorem log_prefix (actions : List Action) : ∀ h : Host, h.log <+: (h.after actions).log := by
  induction actions with
  | nil => exact fun h => List.prefix_refl _
  | cons a rest ih =>
    intro h
    refine List.IsPrefix.trans ?_ (ih (h.act a))
    cases a with
    | read html => exact List.prefix_append _ _
    | attach s v => exact List.prefix_append _ _

theorem after_append (h : Host) (earlier later : List Action) :
    h.after (earlier ++ later) = (h.after earlier).after later :=
  List.foldl_append

/-- **What a host has reported.** After any steps that complete, the log begins with the log after any of the
earlier steps. A value that a rule is given now adds at most one diagnostic. A document that is read now is
read to its end and adds its block, by the host and by any parser with the same subscriptions and the same
log; read once more it adds its block once more. Options that are not accepted leave the blocks as they
are. -/
theorem host_log (actions : List Action) (h : ∀ a ∈ actions, a.Completes) :
    let host := empty.after actions
    let listeners := listenersOf actions
    (∀ earlier later, actions = earlier ++ later → (empty.after earlier).log <+: host.log) ∧
    (∀ s v, ∃ log : Log, log.length ≤ 1 ∧ (host.attach s v).1.log = host.log ++ log) ∧
    (∀ html, (Markup.read html).fault = none →
      host.read html = (⟨host.subscriptions, host.log ++ block listeners html⟩, none) ∧
      (∀ p : Parser Listener Log, p.outside = (host.subscriptions, host.log) →
        Parser.seen (Parser.parse Listener.call html p) =
          .ok () (host.subscriptions, host.log ++ block listeners html)) ∧
      ((host.read html).1.read html).1.log = host.log ++ block listeners html ++ block listeners html ∧
      ∀ s v, (∀ o, ¬ s.Admits v o) →
        ((host.attach s v).1.read html).1.log = (host.attach s v).1.log ++ block listeners html) := by
  intro host listeners
  have hs : Serves listeners host := serves_after h
  refine ⟨?_, attach_log host, fun html hhtml => ⟨hs.read hhtml, fun p hp => ?_, ?_, fun s v hv => ?_⟩⟩
  · rintro earlier later rfl
    change _ <+: (empty.after (earlier ++ later)).log
    rw [after_append]
    exact log_prefix later _
  · have hparse := read_eq_parse host html p hp
    rw [hs.read hhtml] at hparse
    exact hparse
  · have hagain : Serves listeners (host.read html).1 := by
      rw [hs.read hhtml]
      exact ⟨hs.subscriptions, hs.readable⟩
    rw [hagain.read hhtml, hs.read hhtml]
  · rw [(hs.attach_other hv).read hhtml]

/-- Two rules of which one is refused, and a text that is read twice. -/
theorem host_log_refused_rule :
    let words : Value := .dict [(.str "text", .list [.str "ad"])]
    let actions : List Action := [.attach .blockWords words, .attach (.custom "other" []) words, .read "Ad"]
    (∀ a ∈ actions, a.Completes) ∧
      listenersOf actions = [⟨"block-words", ⟨none, none, none, none, some ["ad"]⟩⟩] ∧
      ((empty.after actions).read "Ad").1.log =
        (empty.after actions).log ++
          [⟨.error, "Blocked text word from /ad/g detected: \"ad\"", 1, 1, "block-words", "Ad"⟩] := by
  intro words actions
  have hread : Markup.read "Ad" = ⟨[⟨.text, 1, 1, "Ad", none, [], false⟩], none⟩ := by cbv
  have hhtml : (Markup.read "Ad").fault = none := by rw [hread]
  have hpatterns : Options.Readable ⟨none, none, none, none, some ["ad"]⟩ := by
    intro g patterns hg raw hraw
    cases g <;> cases hg
    obtain rfl := List.mem_singleton.mp hraw
    exact ⟨_, rfl⟩
  have hfirst : (Action.attach .blockWords words).Completes := by
    intro o ho
    cases Schema.read_eq_ok_iff.mpr ho
    exact hpatterns
  have hsecond : (Action.attach (.custom "other" []) words).Completes := by
    intro o ho
    cases Schema.read_eq_ok_iff.mpr ho
  have hcomplete : ∀ a ∈ actions, a.Completes := by
    intro a ha
    simp only [actions, List.mem_cons, List.not_mem_nil, or_false] at ha
    rcases ha with rfl | rfl | rfl
    · exact hfirst
    · exact hsecond
    · exact hhtml
  have hlisteners : listenersOf actions = [⟨"block-words", ⟨none, none, none, none, some ["ad"]⟩⟩] := rfl
  refine ⟨hcomplete, hlisteners, ?_⟩
  obtain ⟨-, -, hlog⟩ := host_log actions hcomplete
  obtain ⟨hagain, -⟩ := hlog "Ad" hhtml
  rw [hagain, hlisteners]
  unfold block
  rw [hread]
  rfl

end Host

end WordLint
