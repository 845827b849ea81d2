import WordLint.Diagnostic.Basic

/-!
# The log of a run

A log is the list of diagnostics in the order in which they were reported, and can only grow. It is
summed up by how many diagnostics there are of each severity.
-/

namespace WordLint

/-- The diagnostics of a run, in order. -/
abbrev Log := List Diagnostic

/-- How many diagnostics there are of each severity. -/
structure Counts where
  info : Nat
  warning : Nat
  error : Nat
deriving Repr, DecidableEq

/-- All of them together. -/
def Counts.total (c : Counts) : Nat :=
  c.info + c.warning + c.error

/-- The counts under the names of the severities. -/
def Counts.byName (c : Counts) : List (String × Nat) :=
  [(Severity.info.name, c.info), (Severity.warning.name, c.warning), (Severity.error.name, c.error)]

namespace Log

/-- How many diagnostics have this severity. -/
def countOf (log : Log) (s : Severity) : Nat :=
  log.countP (·.severity = s)

/-- The counts of a log. -/
def counts (log : Log) : Counts :=
  ⟨log.countOf .info, log.countOf .warning, log.countOf .error⟩

/-- The messages of a log, in order. -/
def messages (log : Log) : List String :=
  log.map (·.message)

/-- Some diagnostic is an error. -/
def hasError (log : Log) : Bool :=
  log.any (·.severity = .error)

/-- The log with one more diagnostic. -/
def add (log : Log) (d : Diagnostic) : Log :=
  log ++ [d]

end Log

end WordLint
