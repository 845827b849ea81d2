import WordLint.Lint.Message
import WordLint.Rule.Schema

/-!
# Rules

A rule is a schema with a description and examples; an example is a document with options, and the
messages that are expected. The catalogue lists the rules that exist.
-/

namespace WordLint

/-- An example run of a rule. -/
structure RuleCase where
  description : String
  html : String
  /-- The options, which may well be refused. -/
  options : Value
  /-- The expected messages, in order. -/
  failures : List String
deriving Repr

/-- A rule. -/
structure Rule where
  schema : Schema
  description : String
  cases : List RuleCase
deriving Repr

namespace Rule

/-- The name of a rule. -/
def id (r : Rule) : String := r.schema.rule

/-- The description of the rule that blocks words. -/
def blockWordsDescription : String :=
  "Block a user defined set of words from appearing in markup, per tag name, attribute name, " ++
    "attribute value, text, or all markup."

/-! ## Examples -/

/-- Options with patterns in one group. -/
def groupOptions (g : Group) (patterns : List String) : Value :=
  .dict [(.str g.key, .list (patterns.map .str))]

/-- An example whose options are refused. -/
def refusedCase (s : Schema) (description : String) (options : Value) : RuleCase :=
  let message := match s.refusal options with
    | .ok text => text
    | .error e => e.message
  ⟨description, "", options, [message]⟩

/-- The message of an example about a word found by a pattern. -/
def found (word pattern : String) (element : Option String) (category : Option Category) : String :=
  blockedWordMessage word (SlashForm.render pattern) element category

/-- A document with a word in the name and in an attribute of one element. -/
def namedThing : String :=
  "<html><head></head><body>What do we have here?" ++
    "<thing-bad-name-thing class=\"bad-name\"></thing-bad-name-thing></body></html>"

/-- Lines that start with a number of spaces, the first line with none. -/
def indented (lines : List (Nat × String)) : String :=
  String.intercalate "\n" (lines.map fun l => "".pushn ' ' l.1 ++ l.2)

/-- An element with one attribute. -/
def thing (name key value : String) : String :=
  s!"<{name} {key}=\"{value}\"></{name}>"

/-- A document with a word at different places of a class. -/
def sharePanels : String :=
  indented [
    (0, ""), (8, "<html>"), (12, "<head></head>"), (12, "<body>"), (16, "What do we have here?"),
    (16, thing "thing-ad-name-thing" "class" "share-panel"),
    (16, thing "thing-ad-name-thing" "class" "other class names before share-panel"),
    (16, thing "thing-ad-name-thing" "class" "share-panel other class names after"),
    (16, thing "thing-ad-name-thing" "class"
      "class names before share-panel and class names after"),
    (12, "</body>"), (8, "</html>")]

/-- A document with one element in its body. -/
def page (element : String) : String :=
  indented [
    (0, ""), (16, "<html>"), (20, "<head></head>"), (20, "<body>"), (24, "What do we have here?"),
    (24, element), (20, "</body>"), (16, "</html>")]

/-- A pattern for a word between blanks or the ends of a text. -/
def betweenBlanks : String := "(?:^|\\s)share-panel(?:$|\\s)"

/-- A pattern for a word between word edges. -/
def betweenEdges : String := "\\bshare-panel\\b"

/-- The examples of the rule that blocks words. -/
def blockWordsCases (s : Schema) : List RuleCase := [
  { description := "should block an easy word all word that is within a class"
    html := "<html><head></head><body>What do we have here?<div class=\"bad-name\"></div></body></html>"
    options := groupOptions .all ["bad-name"]
    failures := [found "bad-name" "bad-name" (some "div") none] },
  refusedCase s "should error on option properties that are not an array"
    (.dict [(.str "all", .str "invalid-option")]),
  refusedCase s "should error on non-object options" (.str "invalid-option"),
  refusedCase s "should error on property arrays that are not purely string arrays"
    (.dict [(.str "all", .list [.int 4, .str "invalid-option"])]),
  refusedCase s "should error on the combined attributes key"
    (.dict [(.str "attributes", .list [.str "bad-name"])]),
  { description := "should block an all word in a tag name and class name"
    html := namedThing
    options := groupOptions .all ["bad-name"]
    failures := List.replicate 3 (found "bad-name" "bad-name" (some "thing-bad-name-thing") none) },
  { description := "should block all matches of attribute value"
    html := sharePanels
    options := groupOptions .attributeValues [betweenBlanks]
    failures := ["share-panel", " share-panel", "share-panel ", " share-panel "].map fun word =>
      found word betweenBlanks (some "thing-ad-name-thing") (some .attribute) },
  { description := "should work with word boundaries"
    html := sharePanels
    options := groupOptions .attributeValues [betweenEdges]
    failures := List.replicate 4
      (found "share-panel" betweenEdges (some "thing-ad-name-thing") (some .attribute)) },
  { description := "should block only attributes when set to do so"
    html := page (thing "thing-bad-name-thing" "class"
      "bad-name lots of other words bad-name more words bad-name")
    options := groupOptions .attributeValues ["bad-name"]
    failures := List.replicate 3
      (found "bad-name" "bad-name" (some "thing-bad-name-thing") (some .attribute)) },
  { description := "should block attribute names"
    html := page (thing "thing-bad-name-thing" "bad-attribute-name" "whatever")
    options := groupOptions .attributeNames ["bad-attribute-name"]
    failures := [found "bad-attribute-name" "bad-attribute-name" (some "thing-bad-name-thing")
      (some .attribute)] },
  { description := "should block a word in tag names only"
    html := namedThing
    options := groupOptions .tagNames ["bad-name"]
    failures := [found "bad-name" "bad-name" (some "thing-bad-name-thing") (some .tagName)] },
  { description := "should block words in text only"
    html := "<p>Lorem ipsum <b>LOREM</b></p>"
    options := groupOptions .text ["lorem"]
    failures := List.replicate 2 (found "lorem" "lorem" none (some .text)) },
  { description := "should ignore comments"
    html := "<!-- bad-name --><p>fine</p>"
    options := .dict [(.str "all", .list [.str "bad-name"]), (.str "text", .list [.str "bad-name"])]
    failures := [] },
  { description := "should not block anything when no options are given"
    html := namedThing
    options := .dict []
    failures := [] }]

/-- The rule that blocks words, for a schema. -/
def blockWords (s : Schema) : Rule :=
  ⟨s, blockWordsDescription, blockWordsCases s⟩

end Rule

/-! ## The catalogue -/

/-- The rules that exist, in the order in which they were entered. -/
def catalogue : List Rule :=
  [Rule.blockWords .blockWords]

/-- The rule with this name. -/
def findRule? (name : String) : Option Rule :=
  catalogue.find? (·.id = name)

/-- The names of all rules, in alphabetical order. -/
def ruleNames : List String :=
  (catalogue.map Rule.id).mergeSort

end WordLint
