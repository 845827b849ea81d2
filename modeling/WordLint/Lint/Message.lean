import WordLint.Pattern.Basic

/-!
# The message about a blocked word

A finding names the pattern, the part of the markup it was found in, the element, and the word itself.
-/

namespace WordLint

/-- The parts of the markup that have patterns of their own. -/
inductive Category where
  | tagName
  | attribute
  | text
deriving Repr, DecidableEq

/-- The name of a category in messages. -/
def Category.name : Category → String
  | .tagName => "tag name"
  | .attribute => "attribute"
  | .text => "text"

/-- The message about one blocked word, found by a pattern that is given between slashes. Without a
category the word was found in the markup as a whole; an element without a name is left out. -/
def blockedWordMessage (word pattern : String) (element : Option String)
    (category : Option Category) : String :=
  let kind := match category with
    | some c => s!"{c.name} "
    | none => ""
  let place := match element with
    | some name => if name.isEmpty then "" else s!" in {name}"
    | none => ""
  s!"Blocked {kind}word from {pattern} detected{place}: \"{word}\""

end WordLint
