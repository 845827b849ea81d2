/-!
# The slash form of a pattern

A pattern is shown between two slashes. So that the closing slash can be told from one that belongs to
the pattern, a slash gets a backslash unless one is there already or it stands inside brackets; and
so that the form stays on one line, line terminators are written as escapes. The empty pattern is
shown as an empty group, for two slashes alone would start a comment.

`SlashScan` is what has to be remembered between two characters to tell which slashes are meant.
-/

namespace WordLint.SlashForm

/-- What is known of the characters read so far: whether they end in an unpaired backslash, and whether
they end inside brackets. -/
structure SlashScan where
  inSet : Bool
  escaped : Bool
deriving Repr, DecidableEq

/-- Before the first character. -/
def SlashScan.start : SlashScan := ⟨false, false⟩

/-- The escape of a line terminator. -/
def terminatorEscape? : Char → Option (List Char)
  | '\n' => some ['\\', 'n']
  | '\r' => some ['\\', 'r']
  | '\u2028' => some ['\\', 'u', '2', '0', '2', '8']
  | '\u2029' => some ['\\', 'u', '2', '0', '2', '9']
  | _ => none

/-- The scan after one more character. A line terminator uses up a backslash before it. -/
def SlashScan.after (s : SlashScan) (c : Char) : SlashScan :=
  if s.escaped || (terminatorEscape? c).isSome then { s with escaped := false }
  else if c = '\\' then { s with escaped := true }
  else if c = '[' then { s with inSet := true }
  else if c = ']' then { s with inSet := false }
  else s

/-- A slash that would end the form. -/
def SlashScan.closes (s : SlashScan) (c : Char) : Bool :=
  c = '/' && !s.inSet && !s.escaped

/-- How one character is written. -/
def SlashScan.write (s : SlashScan) (c : Char) : List Char :=
  match terminatorEscape? c with
  | some escape => escape
  | none => if s.closes c then ['\\', c] else [c]

/-- How characters are written from a scan on. -/
def SlashScan.writeAll (s : SlashScan) : List Char → List Char
  | [] => []
  | c :: rest => s.write c ++ (s.after c).writeAll rest

/-- The source of a pattern as it stands between the slashes. -/
def escapeSource (source : List Char) : List Char :=
  if source.isEmpty then ['(', '?', ':', ')'] else SlashScan.start.writeAll source

/-- The letters behind the closing slash: every pattern is searched for throughout the text. -/
def flags : String := "g"

/-- A pattern between slashes, given its source. -/
def render (source : String) : String :=
  s!"/{String.ofList (escapeSource source.toList)}/{flags}"

end WordLint.SlashForm
