import WordLint.Markup.Subscriptions

/-!
# Parsers that are kept

A parser reads documents one after the other, and its subscriptions last from one to the next. All else
that it keeps belongs to the document that it is reading: the document with the starts of its lines, the
part that has not been read yet, the place that has been reached, the element with raw content that it is
inside of, and the construct that was recognized last.

The end of a construct is known only when the next one is recognized, so its event is delivered then, or at
the end of the document. A delivery may stop the parser, and so may a fault of the document; the parser then
stays as it is until it is given the next document.
-/

namespace WordLint

/-- Why a parser stops. -/
inductive Parser.Stop (ε : Type) where
  /-- A receiver has stopped the delivery. -/
  | receiver (error : ε)
  | markup (fault : Markup.Fault)
  /-- A place is in a line that the document does not have. -/
  | noSuchLine (line : Nat)
deriving Repr, DecidableEq

/-- A construct that has been recognized and whose end is not known: its role, and where it starts. -/
structure Parser.Pending where
  role : Markup.Role
  offset : Nat
  place : Markup.Place
deriving Repr, DecidableEq

/-- A parser, with what its receivers keep for themselves. -/
structure Parser (α σ : Type) where
  subscriptions : Subscriptions α
  memory : σ
  /-- The document. -/
  source : List Char
  /-- The positions at which the lines of the document start. -/
  lineStarts : List Nat
  /-- The construct that was recognized last. -/
  pending : Option Parser.Pending
  /-- What has not been read yet. -/
  unread : List Char
  /-- Where it starts. -/
  place : Markup.Place
  inside : Markup.Inside
deriving Repr, DecidableEq

namespace Parser

open Markup

variable {α σ ε : Type}

/-- A parser that nobody has subscribed to, before its first document. -/
def new (memory : σ) : Parser α σ :=
  { subscriptions := [], memory := memory, source := [], lineStarts := [0], pending := none, unread := [],
    place := .start, inside := none }

/-- Subscribe. -/
def add (p : Parser α σ) (name : String) (receiver : α) : Parser α σ :=
  { p with subscriptions := p.subscriptions.add name receiver }

/-- Give up the earliest subscription of a receiver under a name. -/
def remove [DecidableEq α] (p : Parser α σ) (name : String) (receiver : α) : Parser α σ :=
  { p with subscriptions := p.subscriptions.remove name receiver }

/-- Take up a document, and forget the one before. -/
def load (p : Parser α σ) (html : List Char) : Parser α σ :=
  { p with source := html, lineStarts := Markup.lineStarts html, pending := none, unread := html,
           place := .start, inside := none }

/-! ## Reading -/

/-- What a parser does. -/
abbrev Action (α σ ε : Type) := EStateM (Stop ε) (Parser α σ)

/-- Deliver an event. -/
def fire (call : Call α σ ε) (e : Event) : Action α σ ε Unit := fun p =>
  match Subscriptions.announce call e (p.subscriptions, p.memory) with
  | .ok _ (s, m) => .ok () { p with subscriptions := s, memory := m }
  | .error error (s, m) => .error (.receiver error) { p with subscriptions := s, memory := m }

/-- Deliver the event of the pending construct, which ends at a position. From then on none is pending,
even when the delivery stops. -/
def flush (call : Call α σ ε) (stop : Nat) : Action α σ ε Unit := do
  let p ← get
  match p.pending with
  | none => pure ()
  | some c =>
    set { p with pending := none }
    fire call (Open.complete ⟨c.place, c.role, (p.source.take stop).drop c.offset⟩)

/-- A construct with this role starts at the place that has been reached, where the pending one ends. -/
def recognize (call : Call α σ ε) (role : Role) : Action α σ ε Unit := do
  let p ← get
  match p.lineStarts[p.place.line - 1]? with
  | none => throw (.noSuchLine p.place.line)
  | some lineStart =>
    let offset := lineStart + (p.place.col - 1)
    flush call offset
    modify fun p' => { p' with pending := some ⟨role, offset, p.place⟩ }

/-- Hear of a piece with this role: one that is silent, and a text that follows on a text, belong to the
pending construct. -/
def hearOf (call : Call α σ ε) (role : Role) : Action α σ ε Unit := do
  match role with
  | .silent => pure ()
  | .text => if (← get).pending.any (·.role == .text) then pure () else recognize call .text
  | _ => recognize call role

/-- Read the piece at the front, given its first character and what follows that. The parser goes on
behind it when everybody has heard of it. -/
def readPiece (call : Call α σ ε) (c : Char) (rest : List Char) : Action α σ ε Unit := do
  match Piece.first (← get).inside c rest with
  | .error fault => throw (.markup fault)
  | .ok (piece, next) =>
    hearOf call piece.role
    modify fun p =>
      { p with unread := rest.drop piece.extra,
               place := (c :: rest.take piece.extra).foldl Place.after p.place, inside := next }

/-- Read pieces until nothing is left, at most a number of them. -/
def readPieces (call : Call α σ ε) : Nat → Action α σ ε Unit
  | 0 => pure ()
  | most + 1 => do
    match (← get).unread with
    | [] => pure ()
    | c :: rest =>
      readPiece call c rest
      readPieces call most

/-- Read a document. Every piece has at least one character, so there are no more pieces than
characters. -/
def parse (call : Call α σ ε) (html : String) : Action α σ ε Unit := do
  modify (·.load html.toList)
  readPieces call html.length
  flush call html.length

/-- The parser after an action, whether or not the action was stopped. -/
def after (p : Parser α σ) (action : Action α σ ε Unit) : Parser α σ :=
  match action p with
  | .ok _ q => q
  | .error _ q => q

end Parser

/-! ## Named receivers -/

/-- What receivers keep that are known by their names. Some of them leave when they are called: for every
name of a kind that is kept for them they give up one subscription. -/
structure Audience.Memory where
  /-- Who leaves, and the name of the kind that is given up. -/
  leaving : List (String × String)
  /-- Who was called with which event, last call first. -/
  calls : List (String × Event)

/-- A parser with receivers that are known by their names. -/
abbrev Audience := Parser String Audience.Memory

namespace Audience

/-- Nobody is subscribed. -/
def empty : Audience := Parser.new ⟨[], []⟩

/-- Subscribe under a name; with `once` the receiver leaves it again when it is called. -/
def add (a : Audience) (kind receiver : String) (once : Bool) : Audience :=
  let leaving := if once then a.memory.leaving ++ [(receiver, kind)] else a.memory.leaving
  { Parser.add a kind receiver with memory := { a.memory with leaving := leaving } }

/-- Give up a subscription. -/
def remove (a : Audience) (kind receiver : String) : Audience :=
  Parser.remove a kind receiver

/-- Call a receiver: the call is kept, and the receiver leaves where it is to leave. -/
def call : Call String Memory Empty := fun receiver e => do
  modify fun (subscriptions, memory) =>
    let kinds := (memory.leaving.filter (·.1 = receiver)).map (·.2)
    (kinds.foldl (fun s kind => s.remove kind receiver) subscriptions,
      { memory with calls := (receiver, e) :: memory.calls })

/-- The calls that reading a document leads to, in order, and the audience afterwards. -/
def hear (a : Audience) (html : String) : Audience × List (String × Event) :=
  let start : Audience := { a with memory := { a.memory with calls := [] } }
  let after := start.after (Parser.parse call html)
  (after, after.memory.calls.reverse)

end Audience

end WordLint
