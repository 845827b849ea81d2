import WordLint.Config.Names
import WordLint.Lint.Listener
import WordLint.Markup.Subscriptions
import WordLint.Rule.Catalogue

/-!
# Runs of rules over documents

A rule is given its options, and listens to all events when they are accepted; options that are refused
become one diagnostic without a place. Then a document is read, and each of its events is delivered to
the listeners. `lintText` does this for all rules of a configuration.
-/

namespace WordLint

/-! ## Options -/

/-- The diagnostic about options that are refused. -/
def refusalDiagnostic (s : Schema) (message : String) : Diagnostic :=
  ⟨.error, message, noPlaceLine, noPlaceCol, s.rule, ""⟩

/-- Give a rule its options. It listens when they are accepted. -/
def Schema.listen (s : Schema) (v : Value) : Run (Option Listener) := do
  if v.isAbsent then
    .note (.unset s.rule)
    return none
  match s.read v with
  | .ok options =>
    .note (.listening s.rule (options.groups.map (·.1)))
    return some ⟨s.rule, options⟩
  | .error o =>
    .note (.objection s.rule o)
    .note (.refused s.rule)
    let message ← Recorded.ofExcept .numeral (s.refusal v)
    .note (.reported (refusalDiagnostic s message))
    return none

/-- What the configuration of a rule asks for: nothing when it is off, its own options when it is on,
and otherwise the options that are given. -/
def Schema.resolve (s : Schema) (v : Value) : Option Value :=
  match v with
  | .bool false => none
  | .bool true => some (.options s.defaults)
  | _ => some v

/-! ## Documents -/

/-- Deliver an event to listeners, one after the other. -/
def hearAll (e : Event) : List Listener → Run Unit
  | [] => pure ()
  | l :: rest => do
    l.hear e
    hearAll e rest

/-- Deliver events one after the other. -/
def playEvents (s : Subscriptions Listener) : List Event → Run Unit
  | [] => pure ()
  | e :: rest => do
    .note (.event e)
    hearAll e (s.receivers e.kind)
    playEvents s rest

/-- Read a document and deliver its events. -/
def play (s : Subscriptions Listener) (html : String) : Run Unit := do
  .note (.reading html.length (Markup.lineCount html))
  let reading := Markup.read html
  playEvents s reading.events
  match reading.fault with
  | some fault => .fail (.markup fault)
  | none => pure ()

/-- Subscribe a listener, if there is one, to all events. -/
def subscribe (s : Subscriptions Listener) (l : Option Listener) : Subscriptions Listener :=
  match l with
  | some l => s.add Subscriptions.allEvents l
  | none => s

/-! ## Whole runs -/

/-- The name of a rule in a configuration, whose keys need not be text. -/
def ruleName (key : Value) : String :=
  match key.text with
  | .ok name => name
  | .error e => e.message

/-- The rule that a key of a configuration names. -/
def ruleOf? (key : Value) : Option Rule :=
  key.str?.bind findRule?

/-- Give the rules of a configuration their options. -/
def listenAll (s : Subscriptions Listener) :
    List (Value × Value) → Run (Subscriptions Listener)
  | [] => pure s
  | (key, value) :: rest => do
    match ruleOf? key with
    | none => .fail (.unknownRule (ruleName key))
    | some rule =>
      match rule.schema.resolve value with
      | none =>
        .note (.disabled rule.id)
        listenAll s rest
      | some options =>
        .note (.initializing rule.id)
        listenAll (subscribe s (← rule.schema.listen options)) rest

/-- The rules of a configuration over a document, up to the end of the document. -/
def lintBody (html : String) (rules : List (Value × Value)) : Run Unit := do
  .note (.linting html.length)
  let subscriptions ← listenAll [] rules
  play subscriptions html

/-- Run the rules of a configuration over a document. -/
def lintText (html : String) (rules : List (Value × Value)) : Run Unit := do
  let body := lintBody html rules
  body
  .note (.finished body.log.length)

/-- Run one rule with its options over a document. -/
def Schema.runOver (s : Schema) (options : Value) (html : String) : Run Unit := do
  let listener ← s.listen options
  play (subscribe [] listener) html

/-- Run an example of a rule. -/
def RuleCase.run (c : RuleCase) (s : Schema) : Run Unit :=
  s.runOver c.options c.html

/-- The messages are the expected ones. -/
def RuleCase.expects (c : RuleCase) (log : Log) : Bool :=
  log.messages == c.failures

end WordLint
