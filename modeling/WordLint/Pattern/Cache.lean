import WordLint.Pattern.Basic

/-!
# Patterns that have been read

Patterns that have been read are remembered by the text they were given as, up to a number of them; when
there are too many, the one that has not been asked for the longest is forgotten. A pattern that is
refused is not remembered.
-/

namespace WordLint

/-- The patterns that are remembered, last asked for first. -/
abbrev PatternCache := List (String × Pattern)

namespace PatternCache

/-- This many patterns are remembered. -/
def capacity : Nat := 512

/-- The pattern that is remembered for a text. -/
def find? (c : PatternCache) (raw : String) : Option Pattern :=
  c.lookup raw

/-- Remember a pattern as the one asked for last. -/
def remember (c : PatternCache) (raw : String) (p : Pattern) : PatternCache :=
  ((raw, p) :: c.filter (·.1 != raw)).take capacity

/-- Ask for a pattern: it is read only when it is not remembered. -/
def compile (c : PatternCache) (raw : String) : Except Regex.Failure Pattern × PatternCache :=
  match c.find? raw with
  | some p => (.ok p, c.remember raw p)
  | none =>
    match Pattern.compile raw with
    | .ok p => (.ok p, c.remember raw p)
    | .error f => (.error f, c)

/-- Look for patterns in a text that is in small letters, asking for one after the other. -/
def occurrencesIn (text : Array Char) (c : PatternCache) :
    List String → Except Regex.Failure (List Occurrence) × PatternCache
  | [] => (.ok [], c)
  | raw :: rest =>
    match c.compile raw with
    | (.error f, c) => (.error f, c)
    | (.ok p, c) =>
      let (found, c) := c.occurrencesIn text rest
      (found.map (p.occurrencesIn text ++ ·), c)

/-- What some patterns find in a text, where those that are remembered are not read again. -/
def occurrences (c : PatternCache) (text : String) (patterns : List String) :
    Except Regex.Failure (List Occurrence) × PatternCache :=
  c.occurrencesIn (searchedText text) patterns

end PatternCache

end WordLint
