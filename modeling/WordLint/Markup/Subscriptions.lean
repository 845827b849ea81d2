import WordLint.Markup.Document

/-!
# Who hears which events

A receiver subscribes to a kind of event, by the name of the kind, or to all events. It may subscribe
several times and is then called several times. An event is delivered to those that are subscribed
when its delivery begins: first the subscriptions to its kind, then those to all events, each in the
order in which they were made. What receivers change while an event is delivered takes effect from the
next event on.
-/

namespace WordLint

/-- The subscriptions in the order in which they were made: the name of a kind, and a receiver. -/
abbrev Subscriptions (α : Type) := List (String × α)

namespace Subscriptions

variable {α : Type}

/-- The name under which all events are asked for. -/
def allEvents : String := "all"

/-- The receivers that are subscribed under a name, in order. -/
def under (s : Subscriptions α) (name : String) : List α :=
  s.filterMap fun entry => if entry.1 = name then some entry.2 else none

/-- The receivers of an event of this kind. -/
def receivers (s : Subscriptions α) (kind : EventKind) : List α :=
  s.under kind.name ++ s.under allEvents

/-- Subscribe. -/
def add (s : Subscriptions α) (name : String) (receiver : α) : Subscriptions α :=
  s ++ [(name, receiver)]

/-- Give up the earliest subscription of a receiver under a name. -/
def remove [DecidableEq α] (s : Subscriptions α) (name : String) (receiver : α) : Subscriptions α :=
  s.erase (name, receiver)

/-- The receiver is subscribed under the name, and has a subscription to give up. -/
def has [DecidableEq α] (s : Subscriptions α) (name : String) (receiver : α) : Bool :=
  s.contains (name, receiver)

end Subscriptions

/-! ## Deliveries -/

/-- What receivers do when they are called with an event: they may change the subscriptions and what they
keep for themselves, and they may stop the delivery with an error. -/
abbrev Call (α σ ε : Type) := α → Event → EStateM ε (Subscriptions α × σ) Unit

namespace Subscriptions

variable {α σ ε : Type}

/-- Call receivers one after the other. -/
def callAll (call : Call α σ ε) (e : Event) : List α → EStateM ε (Subscriptions α × σ) Unit
  | [] => pure ()
  | receiver :: rest => do
    call receiver e
    callAll call e rest

/-- Deliver an event to those that are subscribed when the delivery begins. -/
def announce (call : Call α σ ε) (e : Event) : EStateM ε (Subscriptions α × σ) Unit := do
  let (subscriptions, _) ← get
  callAll call e (subscriptions.receivers e.kind)

end Subscriptions

end WordLint
