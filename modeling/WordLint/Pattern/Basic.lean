import WordLint.Regex.Search
import WordLint.Pattern.SlashForm

/-!
# Blocked patterns

A pattern is given as text. It is put in small letters, source and all, and read as a regular
expression; the texts that it is searched in are put in small letters too, so the search does not
depend on case. `occurrences` lists what some patterns find in a text: pattern by pattern in the order
given, and within a pattern from left to right.
-/

namespace WordLint

/-- A pattern that has been read. -/
structure Pattern where
  /-- The text that was read: the one that was given, in small letters. -/
  source : String
  expression : Regex.Compiled
deriving Repr, DecidableEq

/-- A place where a pattern was found. -/
structure Occurrence where
  /-- The part of the searched text. -/
  text : String
  pattern : Pattern
deriving Repr, DecidableEq

namespace Pattern

/-- Read a pattern. -/
def compile (raw : String) : Except Regex.Failure Pattern := do
  let source := Text.lower raw
  return ⟨source, ← Regex.compile source⟩

/-- The pattern between slashes. -/
def render (p : Pattern) : String :=
  SlashForm.render p.source

/-- What a pattern finds in a text that is in small letters. -/
def occurrencesIn (p : Pattern) (text : Array Char) : List Occurrence :=
  (p.expression.spans text).map fun span => ⟨Regex.spanText text span, p⟩

end Pattern

/-- The text that patterns are searched in. -/
def searchedText (text : String) : Array Char :=
  (Text.lower text).toList.toArray

/-- What some patterns find in a text. All of them are read before anything is found. -/
def occurrences (text : String) (patterns : List String) :
    Except Regex.Failure (List Occurrence) := do
  let compiled ← patterns.mapM Pattern.compile
  return compiled.flatMap (·.occurrencesIn (searchedText text))

end WordLint
