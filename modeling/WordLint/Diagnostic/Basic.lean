import WordLint.Trace.Colour

/-!
# Diagnostics

A diagnostic is one finding of a rule: how severe it is, a message, the place of the event that it was
found in, the rule, and the markup of the event.
-/

namespace WordLint

/-- How severe a diagnostic is. -/
inductive Severity where
  | info
  | warning
  | error
deriving Repr, DecidableEq

namespace Severity

/-- The name of a severity. -/
def name : Severity → String
  | .info => "info"
  | .warning => "warning"
  | .error => "error"

/-- The style of a severity on a terminal. -/
def style : Severity → Style
  | .info => .blue
  | .warning => .yellow
  | .error => .brightRed

end Severity

/-- A diagnostic. -/
structure Diagnostic where
  severity : Severity
  message : String
  line : Int
  col : Int
  rule : String
  raw : String
deriving Repr, DecidableEq

/-- A diagnostic on one line: place, severity, message and rule. The severity has its style when colours
are asked for. -/
def Diagnostic.render (paint : Paint) (coloured : Bool) (d : Diagnostic) : String :=
  let tag := "[" ++ d.severity.name ++ "]"
  let tag := if coloured then paint d.severity.style tag else tag
  s!"{d.line}:{d.col} {tag} {d.message} ({d.rule})"

end WordLint
