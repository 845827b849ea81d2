import WordLint.Markup.Piece

/-!
# The events of a document

Every part of a document that is no text opens an event, and so does a text that does not follow on
another text. The other parts belong to the event before them; silent parts at the very front belong to
none. An event is complete when the next one opens, or at the end of the document; if reading stops at
a fault, the last event is never completed.
-/

namespace WordLint.Markup

/-- A place in a document: line and column, counted from 1. -/
structure Place where
  line : Nat
  col : Nat
deriving Repr, DecidableEq

/-- The place behind one more character. -/
def Place.after (p : Place) (c : Char) : Place :=
  if c = '\n' then ⟨p.line + 1, 1⟩ else ⟨p.line, p.col + 1⟩

/-- The first place of a document. -/
def Place.start : Place := ⟨1, 1⟩

/-- An event that is not complete: where it opened, the role of the part that opened it, and its
characters so far. -/
structure Open where
  place : Place
  role : Role
  chars : List Char
deriving Repr, DecidableEq

/-- The kind of event that a role opens. -/
def Role.kind : Role → EventKind
  | .startTag .. => .startTag
  | .endTag _ => .endTag
  | .comment => .comment
  | .text | .silent => .text

/-- The element that a role names. -/
def Role.element : Role → Option String
  | .startTag name .. | .endTag name => some name
  | _ => none

/-- The attributes of a role. -/
def Role.attributes : Role → List Attribute
  | .startTag _ attributes _ => attributes
  | _ => []

/-- A start tag that ends in `/>`. -/
def Role.close : Role → Bool
  | .startTag _ _ close => close
  | _ => false

/-- Complete an event. -/
def Open.complete (o : Open) : Event :=
  { kind := o.role.kind, line := o.place.line, col := o.place.col, raw := String.ofList o.chars,
    element := o.role.element, attributes := o.role.attributes, close := o.role.close }

/-- A part continues an open event rather than opening one. -/
def continues (current : Option Open) (role : Role) : Bool :=
  match role with
  | .silent => true
  | .text => current.any (·.role == .text)
  | _ => false

/-- The events that are completed by these parts, and the one that stays open. -/
def assemble (place : Place) (current : Option Open) : List Part → List Event × Option Open
  | [] => ([], current)
  | part :: rest =>
    let place' := part.chars.foldl Place.after place
    if continues current part.role then
      assemble place' (current.map fun o => { o with chars := o.chars ++ part.chars }) rest
    else
      let done := (current.map Open.complete).toList
      let more := assemble place' (some ⟨place, part.role, part.chars⟩) rest
      (done ++ more.1, more.2)

/-- What reading a document yields: its events, and the fault that cuts them short. -/
structure Reading where
  events : List Event
  fault : Option Fault
deriving Repr, DecidableEq

/-- Read a document. -/
def read (html : String) : Reading :=
  let (parts, fault) := parts none html.toList
  let (events, last) := assemble .start none parts
  match fault with
  | some _ => ⟨events, fault⟩
  | none => ⟨events ++ (last.map Open.complete).toList, none⟩

/-- How many lines a document has. -/
def lineCount (html : String) : Nat :=
  html.toList.count '\n' + 1

/-! ## Lines -/

/-- The positions behind the line feeds of a text whose first character has position `start`. -/
def breaks (start : Nat) (cs : List Char) : List Nat :=
  (cs.zipIdx start).filterMap fun p => if p.1 = '\n' then some (p.2 + 1) else none

/-- The positions at which the lines of a text start. -/
def lineStarts (cs : List Char) : List Nat :=
  0 :: breaks 0 cs

end WordLint.Markup
