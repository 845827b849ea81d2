import Mathlib
import WordLint.Proofs.Markup.Delivery

/-!
# What a receiver of all events hears

A receiver that has subscribed to all events and stays is called once for each event of a document, in
the order of the document, and with nothing but the events (`hear_listening`). So a statement about the
events of a document is one about what such a receiver hears.
-/

namespace WordLint

/-- A single subscription to all events takes in events of every kind. -/
theorem Subscriptions.receivers_allEvents {α : Type} (receiver : α) (kind : EventKind) :
    (Subscriptions.add [] allEvents receiver).receivers kind = [receiver] := by
  have hother : ¬ allEvents = kind.name := by
    cases kind <;> decide
  simp [add, receivers, under, hother]

namespace Audience

/-- A single receiver, which listens to all events and stays. -/
def listening (receiver : String) : Audience :=
  empty.add Subscriptions.allEvents receiver false

/-- What the receiver keeps while it listens. -/
theorem deliveries_listening (receiver : String) (es : List Event) :
    ∀ calls, Parser.deliveries call es ((listening receiver).subscriptions, ⟨[], calls⟩) =
      .ok () ((listening receiver).subscriptions, ⟨[], (es.map (receiver, ·)).reverse ++ calls⟩) := by
  induction es with
  | nil =>
    intro calls
    rfl
  | cons e es ih =>
    intro calls
    have hreceivers : (listening receiver).subscriptions.receivers e.kind = [receiver] :=
      Subscriptions.receivers_allEvents receiver e.kind
    have hannounce : Subscriptions.announce call e ((listening receiver).subscriptions, ⟨[], calls⟩) =
        .ok () ((listening receiver).subscriptions, ⟨[], (receiver, e) :: calls⟩) := by
      rw [Subscriptions.announce_apply, hreceivers]
      rfl
    have hdelivery : Parser.delivery call e ((listening receiver).subscriptions, ⟨[], calls⟩) =
        .ok () ((listening receiver).subscriptions, ⟨[], (receiver, e) :: calls⟩) := by
      rw [Parser.delivery, EStateM.adaptExcept, hannounce]
    rw [Parser.deliveries, Parser.bind_of_ok hdelivery, ih]
    simp

/-- **A receiver of all events hears the events of the document**, each once and in order. -/
theorem hear_listening (receiver html : String) :
    ((listening receiver).hear html).2 = (Markup.read html).events.map (receiver, ·) := by
  have hkept := Parser.outside_after (listening receiver) (Parser.parse call html)
  rw [Parser.seen_parse, Parser.hearing,
    show (listening receiver).outside = ((listening receiver).subscriptions, ⟨[], []⟩) from rfl,
    Parser.bind_of_ok (deliveries_listening receiver _ [])] at hkept
  have hcalls : ((listening receiver).after (Parser.parse call html)).memory.calls =
      ((Markup.read html).events.map (receiver, ·)).reverse := by
    refine (congrArg (·.2.calls) hkept).trans ?_
    cases (Markup.read html).fault <;> exact List.append_nil _
  exact (congrArg List.reverse hcalls).trans (List.reverse_reverse _)

/-- What a receiver of all events hears of a document. -/
def heard (receiver html : String) : List Event :=
  ((listening receiver).hear html).2.map (·.2)

theorem heard_eq (receiver html : String) : heard receiver html = (Markup.read html).events := by
  unfold heard
  rw [hear_listening, List.map_map]
  exact List.map_id _

end Audience

end WordLint
