import Mathlib
import WordLint.Markup.Parser
import WordLint.Proofs.Markup.Parts
import WordLint.Proofs.Markup.Place

/-!
# What reading a document delivers

A parser works through a document piece by piece, with places, positions and a construct that is pending;
`Markup.read` says at once what the events of the document are. Seen by its receivers the two are the same.

**The law** (`seen_parse`): whatever state a parser is in, reading a document delivers the events of the
document one after the other, and then stops at the fault of the document if it has one. What the parser
kept of the documents before has no part in it, and no event is in a line that the document does not have.

`Delivers` says what an action does for the receivers and in what state it leaves the parser; each action of
the parser has one such lemma. `At` is the invariant of reading: the pending construct is the open event of
`assemble`, with a position in place of its characters.
-/

namespace WordLint

/-- An event is delivered to those that are subscribed now. -/
theorem Subscriptions.announce_apply {α σ ε : Type} (call : Call α σ ε) (e : Event)
    (s : Subscriptions α) (m : σ) :
    announce call e (s, m) = callAll call e (s.receivers e.kind) (s, m) :=
  rfl

namespace Parser

open Markup

variable {α σ ε : Type}

/-- What receivers can change of a parser: the subscriptions, and what they keep for themselves. -/
def outside (p : Parser α σ) : Subscriptions α × σ :=
  (p.subscriptions, p.memory)

/-- What is done to that. -/
abbrev Effect (α σ ε : Type) := EStateM (Stop ε) (Subscriptions α × σ)

/-- The outcome of an action as the receivers see it. -/
def seen {β : Type} : EStateM.Result (Stop ε) (Parser α σ) β →
    EStateM.Result (Stop ε) (Subscriptions α × σ) β
  | .ok b p => .ok b p.outside
  | .error stop p => .error stop p.outside

/-- What an outcome leaves behind, of an action that was stopped too. -/
def left {τ ω β : Type} : EStateM.Result ω τ β → τ
  | .ok _ s => s
  | .error _ s => s

theorem outside_after (p : Parser α σ) (action : Action α σ ε Unit) :
    (p.after action).outside = left (seen (action p)) := by
  unfold after
  cases action p <;> rfl

/-! ## What is to be delivered -/

/-- Deliver an event; a receiver may stop that. -/
def delivery (call : Call α σ ε) (e : Event) : Effect α σ ε Unit :=
  EStateM.adaptExcept Stop.receiver (Subscriptions.announce call e)

/-- Deliver events one after the other. -/
def deliveries (call : Call α σ ε) : List Event → Effect α σ ε Unit
  | [] => pure ()
  | e :: rest => do
    delivery call e
    deliveries call rest

/-- Stop at a fault, if there is one. -/
def stopAt : Option Fault → Effect α σ ε Unit
  | none => pure ()
  | some fault => throw (.markup fault)

/-- Deliver the events of a document, and stop at its fault. -/
def hearing (call : Call α σ ε) (r : Reading) : Effect α σ ε Unit := do
  deliveries call r.events
  stopAt r.fault

theorem deliveries_append (call : Call α σ ε) (es fs : List Event) :
    deliveries call (es ++ fs) = (do deliveries call es; deliveries call fs) := by
  induction es with
  | nil => exact (pure_bind _ _).symm
  | cons e es ih => rw [List.cons_append, deliveries, deliveries, ih, bind_assoc]

theorem deliveries_singleton (call : Call α σ ε) (e : Event) : deliveries call [e] = delivery call e :=
  bind_pure_unit

/-! ## Actions and what they deliver -/

theorem bind_of_ok {τ ω β γ : Type} {a : EStateM ω τ β} {f : β → EStateM ω τ γ} {s s' : τ} {b : β}
    (h : a s = .ok b s') : (a >>= f) s = f b s' := by
  change EStateM.bind a f s = _
  rw [EStateM.bind, h]

theorem bind_of_error {τ ω β γ : Type} {a : EStateM ω τ β} {f : β → EStateM ω τ γ} {s s' : τ} {e : ω}
    (h : a s = .error e s') : (a >>= f) s = .error e s' := by
  change EStateM.bind a f s = _
  rw [EStateM.bind, h]

/-- From this parser an action does for the receivers what `x` does, and unless it is stopped it leaves a
parser with `after`. -/
structure Delivers (action : Action α σ ε Unit) (p : Parser α σ)
    (x : Effect α σ ε Unit) (after : Parser α σ → Prop) : Prop where
  seen : seen (action p) = x p.outside
  after : ∀ q, action p = .ok () q → after q

theorem Delivers.pure {p : Parser α σ} {after : Parser α σ → Prop} (h : after p) :
    Delivers (pure () : Action α σ ε Unit) p (pure ()) after where
  seen := rfl
  after := by
    intro q hq
    cases hq
    exact h

theorem Delivers.modify {p : Parser α σ} {f : Parser α σ → Parser α σ} {after : Parser α σ → Prop}
    (houtside : (f p).outside = p.outside) (h : after (f p)) :
    Delivers (modify f : Action α σ ε Unit) p (Pure.pure ()) after where
  seen := congrArg (EStateM.Result.ok ()) houtside
  after := by
    intro q hq
    cases hq
    exact h

/-- One action behind another. -/
theorem Delivers.bind {a b : Action α σ ε Unit} {p : Parser α σ}
    {x y : Effect α σ ε Unit} {between after : Parser α σ → Prop}
    (ha : Delivers a p x between) (hb : ∀ q, between q → Delivers b q y after) :
    Delivers (do a; b) p (do x; y) after := by
  have hseen := ha.seen
  cases hrun : a p with
  | ok u q =>
    rw [hrun] at hseen
    have hnext := hb q (ha.after q hrun)
    constructor
    · rw [bind_of_ok hrun, bind_of_ok hseen.symm]
      exact hnext.seen
    · rw [bind_of_ok hrun]
      exact hnext.after
  | error stop q =>
    rw [hrun] at hseen
    constructor
    · rw [bind_of_error hrun, bind_of_error hseen.symm]
      rfl
    · rw [bind_of_error hrun]
      exact fun _ hq => nomatch hq

/-- An action that first reads off the parser what to do. -/
theorem Delivers.get {a : Parser α σ → Action α σ ε Unit} {p : Parser α σ}
    {x : Effect α σ ε Unit} {after : Parser α σ → Prop}
    (h : Delivers (a p) p x after) : Delivers (do a (← MonadState.get)) p x after :=
  ⟨h.seen, h.after⟩

/-- An action that first changes what receivers do not see. -/
theorem Delivers.set {a : Action α σ ε Unit} {p q : Parser α σ}
    {x : Effect α σ ε Unit} {after : Parser α σ → Prop}
    (houtside : q.outside = p.outside) (h : Delivers a q x after) :
    Delivers (do MonadStateOf.set q; a) p x after :=
  ⟨houtside ▸ h.seen, h.after⟩

theorem Delivers.mono {action : Action α σ ε Unit} {p : Parser α σ}
    {x : Effect α σ ε Unit} {after after' : Parser α σ → Prop}
    (h : Delivers action p x after) (hle : ∀ q, after q → after' q) : Delivers action p x after' :=
  ⟨h.seen, fun q hq => hle q (h.after q hq)⟩

/-- Behind an action that is always stopped nothing is done any more. -/
theorem Delivers.stopped {a b : Action α σ ε Unit} {p : Parser α σ}
    {x : Effect α σ ε Unit} (after : Parser α σ → Prop)
    (h : Delivers a p x fun _ => False) : Delivers (do a; b) p x after := by
  rw [← bind_pure_unit (x := x)]
  exact h.bind fun _ hfalse => hfalse.elim

/-- Delivering an event changes nothing but what receivers can change. -/
theorem fire_delivers (call : Call α σ ε) (e : Event) (p : Parser α σ) :
    Delivers (fire call e) p (delivery call e)
      fun q => ∃ o : Subscriptions α × σ, q = { p with subscriptions := o.1, memory := o.2 } := by
  unfold delivery
  cases hrun : Subscriptions.announce call e p.outside with
  | ok u o =>
    have hfire : fire call e p = .ok () { p with subscriptions := o.1, memory := o.2 } := by
      unfold fire
      rw [show (p.subscriptions, p.memory) = p.outside from rfl, hrun]
    constructor
    · rw [hfire, EStateM.adaptExcept, hrun]
      rfl
    · rw [hfire]
      intro q hq
      cases hq
      exact ⟨o, rfl⟩
  | error error o =>
    have hfire : fire call e p =
        .error (.receiver error) { p with subscriptions := o.1, memory := o.2 } := by
      unfold fire
      rw [show (p.subscriptions, p.memory) = p.outside from rfl, hrun]
    constructor
    · rw [hfire, EStateM.adaptExcept, hrun]
      rfl
    · rw [hfire]
      exact fun _ hq => nomatch hq

/-! ## The invariant of reading -/

/-- The open event of a parser that has reached the end of `front`. -/
def opened (front : List Char) (pending : Option Pending) : Option Open :=
  pending.map fun c => ⟨c.place, c.role, front.drop c.offset⟩

/-- The parser reads `front ++ rest`, and has reached the end of `front`. -/
structure At (front rest : List Char) (inside : Inside) (current : Option Open) (p : Parser α σ) :
    Prop where
  source : p.source = front ++ rest
  lineStarts : p.lineStarts = Markup.lineStarts (front ++ rest)
  unread : p.unread = rest
  place : p.place = Place.reached front
  inside : p.inside = inside
  current : opened front p.pending = current
  offset : ∀ c ∈ p.pending, c.offset ≤ front.length

theorem load_at (html : List Char) (p : Parser α σ) : At [] html none none (p.load html) where
  source := rfl
  lineStarts := rfl
  unread := rfl
  place := rfl
  inside := rfl
  current := rfl
  offset := fun _ h => nomatch h

/-- Receivers leave what the parser keeps of the document. -/
theorem At.outside {front rest : List Char} {inside : Inside} {current : Option Open} {p : Parser α σ}
    (h : At front rest inside current p) (s : Subscriptions α) (m : σ) :
    At front rest inside current { p with subscriptions := s, memory := m } where
  __ := h

/-- The position of the place that has been reached is read off the line table. -/
theorem At.position {front rest : List Char} {inside : Inside} {current : Option Open} {p : Parser α σ}
    (h : At front rest inside current p) :
    ∃ start, p.lineStarts[p.place.line - 1]? = some start ∧ start + (p.place.col - 1) = front.length := by
  obtain ⟨hline, -, start, hstart, hlength⟩ := reached_spec front
  refine ⟨start, ?_, by rw [h.place]; exact hlength⟩
  have hin : front.count '\n' < (Markup.lineStarts front).length :=
    (List.getElem?_eq_some_iff.mp hstart).1
  rw [h.lineStarts, h.place, hline, Nat.add_sub_cancel, ← hstart]
  unfold Markup.lineStarts at hin ⊢
  rw [breaks_append, ← List.cons_append, List.getElem?_append_left hin]

/-! ## One piece -/

/-- The pending construct ends here: its event is the open one, complete. -/
theorem flush_delivers (call : Call α σ ε) {front rest : List Char} {inside : Inside}
    {current : Option Open} {p : Parser α σ} (h : At front rest inside current p) :
    Delivers (flush call front.length) p (deliveries call (current.map Open.complete).toList)
      (At front rest inside none) := by
  refine Delivers.get ?_
  have hcurrent := h.current
  cases hpending : p.pending with
  | none =>
    rw [hpending] at hcurrent
    subst hcurrent
    exact .pure h
  | some c =>
    rw [hpending] at hcurrent
    subst hcurrent
    have htaken : p.source.take front.length = front := by
      rw [h.source, List.take_left]
    have hat : At front rest inside none { p with pending := none } :=
      ⟨h.source, h.lineStarts, h.unread, h.place, h.inside, rfl, fun _ hmem => nomatch hmem⟩
    simp only [opened, Option.map_some, Option.toList_some, deliveries_singleton, htaken]
    refine Delivers.set rfl ((fire_delivers call _ _).mono ?_)
    rintro q ⟨o, rfl⟩
    exact hat.outside o.1 o.2

/-- A construct starts where the pending one ends. -/
theorem recognize_delivers (call : Call α σ ε) (role : Role) {front rest : List Char} {inside : Inside}
    {current : Option Open} {p : Parser α σ} (h : At front rest inside current p) :
    Delivers (recognize call role) p (deliveries call (current.map Open.complete).toList)
      (At front rest inside (some ⟨Place.reached front, role, []⟩)) := by
  refine Delivers.get ?_
  obtain ⟨start, hstart, hposition⟩ := h.position
  simp only [hstart]
  rw [h.place] at hposition
  simp only [h.place, hposition]
  rw [← bind_pure_unit (x := deliveries call _)]
  refine (flush_delivers call h).bind ?_
  intro q hq
  refine .modify rfl ⟨hq.source, hq.lineStarts, hq.unread, hq.place, hq.inside, ?_, ?_⟩
  · simp [opened]
  · intro c hc
    cases hc
    exact Nat.le_refl _

/-- What the receivers are told of a piece, before the parser goes on behind it. -/
theorem hearOf_delivers (call : Call α σ ε) (role : Role) {front rest : List Char} {inside : Inside}
    {current : Option Open} {p : Parser α σ} (h : At front rest inside current p) :
    Delivers (hearOf call role) p
      (if continues current role then Pure.pure () else
        deliveries call (current.map Open.complete).toList)
      (At front rest inside
        (if continues current role then current else some ⟨Place.reached front, role, []⟩)) := by
  have htext : p.pending.any (·.role == .text) = continues current .text := by
    rw [continues, ← h.current, opened, Option.any_map]
  cases role with
  | silent => exact .pure h
  | text =>
    refine Delivers.get ?_
    rw [htext]
    cases continues current .text with
    | true => exact .pure h
    | false => exact recognize_delivers call .text h
  | startTag name attributes close => exact recognize_delivers call _ h
  | endTag name => exact recognize_delivers call _ h
  | comment => exact recognize_delivers call _ h

/-- An open event with more characters. -/
def grown (w : List Char) (current : Option Open) : Option Open :=
  current.map fun o => { o with chars := o.chars ++ w }

/-- The parser goes on behind some characters. -/
theorem At.advance {front w rest : List Char} {inside : Inside} {current : Option Open} {p : Parser α σ}
    (h : At front (w ++ rest) inside current p) (next : Inside) :
    At (front ++ w) rest next (grown w current)
      { p with unread := rest, place := w.foldl Place.after p.place, inside := next } where
  source := by rw [List.append_assoc]; exact h.source
  lineStarts := by rw [List.append_assoc]; exact h.lineStarts
  unread := rfl
  place := by rw [Place.reached_append, ← h.place]
  inside := rfl
  current := by
    rw [← h.current]
    unfold grown opened
    cases hpending : p.pending with
    | none => rfl
    | some c => simp [List.drop_append_of_le_length (h.offset c hpending)]
  offset := by
    intro c hc
    have := h.offset c hc
    rw [List.length_append]
    omega

/-- One part more: either it opens an event, and the one before is complete, or it does not. -/
theorem assemble_cons (place : Place) (current : Option Open) (part : Part) (rest : List Part) :
    let opens := if continues current part.role then current else some ⟨place, part.role, []⟩
    let more := assemble (part.chars.foldl Place.after place) (grown part.chars opens) rest
    assemble place current (part :: rest) =
      ((if continues current part.role then [] else (current.map Open.complete).toList) ++ more.1,
        more.2) := by
  rw [assemble]
  cases continues current part.role with
  | true => rfl
  | false => rfl

/-- A piece that can be cut off is made known, and the parser goes on behind it. -/
theorem readPiece_delivers (call : Call α σ ε) {front rest : List Char} {c : Char}
    {inside next : Inside} {current : Option Open} {piece : Piece} {p : Parser α σ}
    (h : At front (c :: rest) inside current p) (hfirst : Piece.first inside c rest = .ok (piece, next)) :
    Delivers (readPiece call c rest) p
      (deliveries call
        (if continues current piece.role then [] else (current.map Open.complete).toList))
      (At (front ++ c :: rest.take piece.extra) (rest.drop piece.extra) next
        (grown (c :: rest.take piece.extra)
          (if continues current piece.role then current
            else some ⟨Place.reached front, piece.role, []⟩))) := by
  refine Delivers.get ?_
  rw [h.inside, hfirst, ← bind_pure_unit (x := deliveries call _), apply_ite (deliveries call)]
  refine (hearOf_delivers call piece.role h).bind ?_
  intro q hq
  have hcut : c :: rest = c :: rest.take piece.extra ++ rest.drop piece.extra := by
    rw [List.cons_append, List.take_append_drop]
  rw [hcut] at hq
  exact .modify rfl (hq.advance next)

/-- A fault stops the parser. -/
theorem readPiece_fault (call : Call α σ ε) {front rest : List Char} {c : Char} {inside : Inside}
    {current : Option Open} {fault : Fault} {p : Parser α σ} {after : Parser α σ → Prop}
    (h : At front (c :: rest) inside current p) (hfirst : Piece.first inside c rest = .error fault) :
    Delivers (readPiece call c rest) p (stopAt (some fault)) after := by
  refine Delivers.get ?_
  rw [h.inside, hfirst]
  exact ⟨rfl, fun _ hq => nomatch hq⟩

/-! ## The whole document -/

/-- The pieces of a document, read one after the other: the complete events are delivered, and the open one
is pending at the end, or there is a fault. -/
theorem readPieces_delivers (call : Call α σ ε) (most : Nat) :
    ∀ {front rest : List Char} {inside : Inside} {current : Option Open} {p : Parser α σ},
      rest.length ≤ most → At front rest inside current p →
      Delivers (readPieces call most) p
        (do
          deliveries call (assemble (Place.reached front) current (parts inside rest).1).1
          stopAt (parts inside rest).2)
        fun q => (parts inside rest).2 = none ∧ ∃ last,
          At (front ++ rest) [] last (assemble (Place.reached front) current (parts inside rest).1).2 q := by
  induction most with
  | zero =>
    intro front rest inside current p hmost h
    obtain rfl : rest = [] := List.length_eq_zero_iff.mp (Nat.le_zero.mp hmost)
    rw [parts_nil, List.append_nil]
    exact .pure ⟨rfl, inside, h⟩
  | succ most ih =>
    intro front rest inside current p hmost h
    refine Delivers.get ?_
    rw [h.unread]
    cases rest with
    | nil =>
      rw [parts_nil, List.append_nil]
      exact .pure ⟨rfl, inside, h⟩
    | cons c rest =>
      cases hfirst : Piece.first inside c rest with
      | error fault =>
        rw [parts_fault hfirst]
        exact (readPiece_fault call h hfirst).stopped _
      | ok found =>
        obtain ⟨piece, next⟩ := found
        rw [parts_cons hfirst, assemble_cons, deliveries_append, bind_assoc]
        refine (readPiece_delivers call h hfirst).bind ?_
        intro q hq
        have hless : (rest.drop piece.extra).length ≤ most := by
          rw [List.length_drop]
          rw [List.length_cons] at hmost
          omega
        have hwhole : front ++ (c :: rest) =
            front ++ (c :: rest.take piece.extra) ++ rest.drop piece.extra := by
          rw [List.append_assoc, List.cons_append, List.take_append_drop]
        rw [hwhole, ← Place.reached_append]
        exact ih hless hq

/-- A document without a fault is heard in full: its complete events, and the one that is open at the
end. -/
theorem hearing_complete (call : Call α σ ε) {html : String} (h : (parts none html.toList).2 = none) :
    hearing call (Markup.read html) = (do
      let found := assemble .start none (parts none html.toList).1
      deliveries call found.1
      deliveries call (found.2.map Open.complete).toList) := by
  simp only [hearing, Markup.read, h, stopAt, deliveries_append, bind_pure_unit]

/-- A document with a fault is heard up to the fault, without the event that is open there. -/
theorem hearing_fault (call : Call α σ ε) {html : String} {fault : Fault}
    (h : (parts none html.toList).2 = some fault) :
    hearing call (Markup.read html) = (do
      deliveries call (assemble .start none (parts none html.toList).1).1
      stopAt (some fault)) := by
  simp only [hearing, Markup.read, h]

/-- **Reading delivers the events of the document**: from any state of the parser, the receivers see the
events of the document one after the other, and then its fault. -/
theorem seen_parse (call : Call α σ ε) (html : String) (p : Parser α σ) :
    seen (parse call html p) = hearing call (Markup.read html) p.outside := by
  suffices h : Delivers (parse call html) p (hearing call (Markup.read html)) fun _ => True from h.seen
  rw [← pure_bind () fun _ => hearing call (Markup.read html)]
  have hload : Delivers (modify (·.load html.toList) : Action α σ ε Unit) p (Pure.pure ())
      (At [] html.toList none none) := .modify rfl (load_at html.toList p)
  refine hload.bind fun q hq => ?_
  have hread := readPieces_delivers call html.length (Nat.le_of_eq String.length_toList) hq
  cases hfault : (parts none html.toList).2 with
  | some fault =>
    rw [hearing_fault call hfault]
    rw [hfault] at hread
    exact (hread.mono fun _ h => nomatch h.1).stopped _
  | none =>
    rw [hearing_complete call hfault]
    rw [hfault] at hread
    simp only [stopAt, bind_pure_unit] at hread
    refine hread.bind ?_
    rintro r ⟨-, last, hr⟩
    have hlength : html.length = html.toList.length := String.length_toList.symm
    rw [hlength]
    exact (flush_delivers call hr).mono fun _ _ => trivial

end Parser

end WordLint
