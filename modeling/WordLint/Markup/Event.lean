/-!
# Events

What a document consists of, in the order of the document: start tags, end tags, texts and comments.
Declarations and processing instructions count as text. An event knows where it starts, and the part
of the document that it stands for.
-/

namespace WordLint

/-- An attribute of a start tag. -/
structure Attribute where
  name : String
  /-- The value without quotes; empty when none is written. -/
  value : String
deriving Repr, DecidableEq

/-- The kinds of events. -/
inductive EventKind where
  | startTag
  | endTag
  | text
  | comment
deriving Repr, DecidableEq

/-- The name under which a kind of event is asked for. -/
def EventKind.name : EventKind → String
  | .startTag => "tagstart"
  | .endTag => "tagend"
  | .text => "text"
  | .comment => "comment"

/-- An event. -/
structure Event where
  kind : EventKind
  /-- The line that it starts on, counted from 1. -/
  line : Int
  /-- The column that it starts in, counted from 1. -/
  col : Int
  /-- The part of the document from here to the next event. -/
  raw : String
  /-- The name of the element, in small letters. -/
  element : Option String
  /-- The attributes of a start tag, in the order of the document; of others, none. -/
  attributes : List Attribute
  /-- A start tag that ends in `/>`. -/
  close : Bool
deriving Repr, DecidableEq

end WordLint
