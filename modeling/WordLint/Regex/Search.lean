import WordLint.Regex.Reader
import WordLint.Regex.Matching

/-!
# Finding all occurrences

`Compiled.spans` finds the spans of a text that an expression matches, from left to right: each search
starts where the last span ended, at the leftmost position with a match. After an empty span the next
one must not end where the search starts, so no span is found twice and the scan comes to an end.
-/

namespace WordLint.Regex

/-- Where a match that starts at `start` ends; `nonempty` refuses the one that ends at once. -/
def Compiled.matchEnd? (e : Compiled) (text : Array Char) (start : Nat) (nonempty : Bool) :
    Option Nat :=
  let accept (q : Point) : Option Point := if nonempty && q.position == start then none else some q
  (e.regex.run text e.mode (.start start) accept).map (·.position)

/-- The first match that starts at one of the next positions, `count` of them beginning with
`start`. -/
def Compiled.firstFrom (e : Compiled) (text : Array Char) :
    Nat → Nat → Bool → Option (Nat × Nat)
  | 0, _, _ => none
  | count + 1, start, nonempty =>
    match e.matchEnd? text start nonempty with
    | some stop => some (start, stop)
    | none => e.firstFrom text count (start + 1) false

/-- The spans from a position on. -/
def Compiled.spansFrom (e : Compiled) (text : Array Char) :
    Nat → Nat → Bool → List (Nat × Nat)
  | 0, _, _ => []
  | fuel + 1, start, nonempty =>
    match e.firstFrom text (text.size + 1 - start) start nonempty with
    | none => []
    | some (s, stop) => (s, stop) :: e.spansFrom text fuel stop (s == stop)

/-- The spans that an expression matches, from left to right. A span is followed by at most one empty
span at its end, so twice the positions of the text are enough. -/
def Compiled.spans (e : Compiled) (text : Array Char) : List (Nat × Nat) :=
  e.spansFrom text (2 * text.size + 3) 0 false

/-- The text of a span. -/
def spanText (text : Array Char) (span : Nat × Nat) : String :=
  String.ofList (text.extract span.1 span.2).toList

end WordLint.Regex
