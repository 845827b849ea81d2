import WordLint.Lint.Session
import WordLint.Markup.Parser

/-!
# A host for rules

A host keeps subscriptions and a log over several documents. Rules are given their options at any time
and listen to the documents read afterwards; the log only grows. An error stops what the host is
doing, but leaves it usable.

So a host is a parser that is kept: its receivers are rules, and what they keep together is the log.
-/

namespace WordLint

/-- A rule that is called with an event by a parser: what it reports is added to the log. -/
def Listener.call : Call Listener Log LintError := fun l e (subscriptions, log) =>
  let run := l.hear e
  match run.result with
  | .ok _ => .ok () (subscriptions, log ++ run.log)
  | .error error => .error error (subscriptions, log ++ run.log)

/-- A host. -/
structure Host where
  subscriptions : Subscriptions Listener
  log : Log

namespace Host

/-- Nobody listens, and nothing has been reported. -/
def empty : Host := ⟨[], []⟩

/-- The error that a run stopped at. -/
def errorOf {α : Type} (r : Run α) : Option LintError :=
  match r.result with
  | .ok _ => none
  | .error e => some e

/-- Give a rule its options. -/
def attach (h : Host) (s : Schema) (v : Value) : Host × Option LintError :=
  let run := s.listen v
  let listener := match run.result with
    | .ok l => l
    | .error _ => none
  (⟨subscribe h.subscriptions listener, h.log ++ run.log⟩, errorOf run)

/-- Read a document. -/
def read (h : Host) (html : String) : Host × Option LintError :=
  let run := play h.subscriptions html
  ({ h with log := h.log ++ run.log }, errorOf run)

end Host

end WordLint
