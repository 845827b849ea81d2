import WordLint.Diagnostic.Log
import WordLint.Lint.Recorded
import WordLint.Markup.Document
import WordLint.Pattern.Basic
import WordLint.Rule.Schema

/-!
# Steps of a run

Everything that happens in a run of the rules over a document, in the order in which it happens. The
diagnostics of a run are read off its steps, and so is its trace.
-/

namespace WordLint

/-- A step of a run. -/
inductive Step where
  /-- A run over a document with this many characters begins. -/
  | linting (characters : Nat)
  /-- A rule is switched off by the configuration. -/
  | disabled (rule : String)
  /-- A rule is about to be given its options. -/
  | initializing (rule : String)
  /-- A rule has been given no options. -/
  | unset (rule : String)
  /-- What is wrong with the options of a rule. -/
  | objection (rule : String) (o : Objection)
  /-- The options of a rule are refused. -/
  | refused (rule : String)
  /-- A rule listens, with patterns in these groups. -/
  | listening (rule : String) (groups : List Group)
  /-- A document with this many characters and lines is about to be read. -/
  | reading (characters lines : Nat)
  /-- An event is about to be delivered. -/
  | event (e : Event)
  /-- A pattern is asked for. -/
  | pattern (raw : String)
  /-- A rule has found something in an event. -/
  | finding (rule : String) (e : Event) (message : String)
  /-- A diagnostic is added to the log. -/
  | reported (d : Diagnostic)
  /-- The run is over, with this many diagnostics. -/
  | finished (diagnostics : Nat)
  /-- The rules of a configuration are no table and are left out of account. -/
  | rulesIgnored (v : Value)

/-- Why a run stops. -/
inductive LintError where
  /-- The configuration names a rule that does not exist. -/
  | unknownRule (name : String)
  | pattern (f : Regex.Failure)
  | markup (f : Markup.Fault)
  /-- A value that is to be shown holds an integer with too many digits. -/
  | numeral (e : Text.NumeralError)
deriving Repr, DecidableEq

/-- The wording of an error. -/
def LintError.message : LintError → String
  | .unknownRule name => s!"Unknown rule: {name}"
  | .pattern f => f.message
  | .markup f => f.message
  | .numeral e => e.message

/-- A part of a run. -/
abbrev Run := Recorded Step LintError

/-- The diagnostic that a step adds. -/
def Step.diagnostic? : Step → Option Diagnostic
  | .reported d => some d
  | _ => none

/-- The diagnostics that some steps add, in order. -/
def diagnosticsOf (steps : List Step) : Log :=
  steps.filterMap Step.diagnostic?

/-- The diagnostics of a run. -/
def Recorded.log {ε α : Type} (r : Recorded Step ε α) : Log :=
  diagnosticsOf r.steps

end WordLint
