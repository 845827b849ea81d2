import WordLint.Lint.Message
import WordLint.Lint.Step

/-!
# What a rule finds in an event

A listener is a rule with the patterns that it looks for. For each event it makes a list of checks, each
of which looks for some patterns in one text. A check first reads all its patterns and then reports
every occurrence, so a check with a pattern that is refused reports nothing.

On a start tag the name is checked first, then value and name of each attribute in the order of the
document. Texts have a check of their own. All events but comments end with a check of the markup
itself. An empty tag name or empty markup is not checked.
-/

namespace WordLint

/-- A rule with the patterns that it looks for. -/
structure Listener where
  rule : String
  options : Options
deriving Repr, DecidableEq

/-- Some patterns to look for in a text. -/
structure Check where
  text : String
  patterns : List String
  category : Option Category
deriving Repr, DecidableEq

/-- The check of a text for a group of patterns, if the group is there. -/
def checkOf (patterns : Option (List String)) (text : String) (category : Option Category) :
    List Check :=
  match patterns with
  | some ps => [⟨text, ps, category⟩]
  | none => []

namespace Listener

/-- The checks of an attribute: the value, then the name. -/
def attributeChecks (l : Listener) (a : Attribute) : List Check :=
  checkOf l.options.attributeValues a.value (some .attribute) ++
    checkOf l.options.attributeNames a.name (some .attribute)

/-- The check of the tag name of a start tag. -/
def nameChecks (l : Listener) (e : Event) : List Check :=
  match e.kind, e.element with
  | .startTag, some name =>
    if name.isEmpty then [] else checkOf l.options.tagNames name (some .tagName)
  | _, _ => []

/-- The checks of an event by its kind, when it has markup. -/
def contentChecks (l : Listener) (e : Event) : List Check :=
  match e.kind with
  | .startTag => e.attributes.flatMap l.attributeChecks
  | .text => checkOf l.options.text e.raw (some .text)
  | _ => []

/-- The checks of an event, in order. -/
def checks (l : Listener) (e : Event) : List Check :=
  if e.kind = .comment then []
  else
    l.nameChecks e ++
      if e.raw.isEmpty then [] else l.contentChecks e ++ checkOf l.options.all e.raw none

/-- Read patterns one after the other. -/
def readPatterns : List String → Run (List Pattern)
  | [] => pure []
  | raw :: rest => do
    .note (.pattern raw)
    let p ← Recorded.ofExcept .pattern (Pattern.compile raw)
    return p :: (← readPatterns rest)

/-- The message about an occurrence in an event. -/
def messageOf (e : Event) (category : Option Category) (o : Occurrence) : String :=
  blockedWordMessage o.text o.pattern.render (e.element.map Text.lower) category

/-- The diagnostic with this message about an event. -/
def diagnosticOf (l : Listener) (e : Event) (message : String) : Diagnostic :=
  ⟨.error, message, e.line, e.col, l.rule, e.raw⟩

/-- Report messages about an event. -/
def report (l : Listener) (e : Event) : List String → Run Unit
  | [] => pure ()
  | message :: rest => do
    .note (.finding l.rule e message)
    .note (.reported (l.diagnosticOf e message))
    l.report e rest

/-- Make one check. -/
def runCheck (l : Listener) (e : Event) (c : Check) : Run Unit := do
  let patterns ← readPatterns c.patterns
  let text := searchedText c.text
  l.report e ((patterns.flatMap (·.occurrencesIn text)).map (messageOf e c.category))

/-- Make checks one after the other. -/
def runChecks (l : Listener) (e : Event) : List Check → Run Unit
  | [] => pure ()
  | c :: rest => do
    l.runCheck e c
    l.runChecks e rest

/-- Hear an event. -/
def hear (l : Listener) (e : Event) : Run Unit :=
  l.runChecks e (l.checks e)

end Listener

end WordLint
