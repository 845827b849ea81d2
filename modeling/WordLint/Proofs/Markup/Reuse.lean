import Mathlib
import WordLint.Proofs.Markup.Delivery

/-!
# Parsers are reusable

A parser is subscribed to, given up and made to read documents in any order. Any of its readings may have
been stopped: by a receiver, in the middle of a delivery, or by a fault of the document. A document may also
have ended inside a script, a tag or a comment.

**The law** (`parse_after_uses`): the next document is read as by a new parser that has the same
subscriptions. The receivers are called with the same events in the same order, they keep and subscribe to
the same, and reading stops for the same reason or for none.

Nothing has to be kept up between two documents for that: reading sets every part of the parser that belongs
to a document before it looks at it, so `seen_parse` asks nothing of the parser that it starts from.
-/

namespace WordLint.Parser

variable {α σ ε : Type}

/-- Something that is done with a parser. -/
inductive Use (α : Type) where
  | add (name : String) (receiver : α)
  | remove (name : String) (receiver : α)
  | parse (html : String)
deriving Repr, DecidableEq

/-- The parser after a use, whether or not it was stopped. -/
def use [DecidableEq α] (call : Call α σ ε) (p : Parser α σ) : Use α → Parser α σ
  | .add name receiver => p.add name receiver
  | .remove name receiver => p.remove name receiver
  | .parse html => p.after (parse call html)

/-- A new parser with the subscriptions of another one, made in the same order. -/
def renewed (p : Parser α σ) : Parser α σ :=
  p.subscriptions.foldl (fun q entry => q.add entry.1 entry.2) (new p.memory)

/-- Subscriptions that are made one after the other. -/
theorem foldl_add (s : Subscriptions α) :
    ∀ p : Parser α σ, s.foldl (fun q entry => q.add entry.1 entry.2) p =
      { p with subscriptions := p.subscriptions ++ s } := by
  induction s with
  | nil =>
    intro p
    rw [List.append_nil]
    rfl
  | cons entry s ih =>
    intro p
    rw [List.foldl_cons, ih]
    simp [add, Subscriptions.add]

/-- The new parser has the same receivers, and nothing of the documents. -/
theorem renewed_eq (p : Parser α σ) :
    p.renewed = { (new p.memory : Parser α σ) with subscriptions := p.subscriptions } :=
  foldl_add p.subscriptions (new p.memory)

theorem renewed_outside (p : Parser α σ) : p.renewed.outside = p.outside := by
  rw [renewed_eq]
  rfl

/-- **A parser is as good as a new one**: whatever has been done with it, and however that ended, the
receivers see the next document as they see it from a new parser with the same subscriptions, namely its
events one after the other and then its fault. What they keep may well be the calls that they get. -/
theorem parse_after_uses [DecidableEq α] (call : Call α σ ε) (memory : σ) (uses : List (Use α))
    (html : String) :
    let p := uses.foldl (use call) (new memory)
    seen (parse call html p) = seen (parse call html p.renewed) ∧
      seen (parse call html p) = hearing call (Markup.read html) p.outside := by
  intro p
  have hused := seen_parse call html p
  have hnew := seen_parse call html p.renewed
  rw [renewed_outside] at hnew
  exact ⟨hused.trans hnew.symm, hused⟩

end WordLint.Parser
