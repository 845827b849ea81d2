/-!
# Why a text is not read

A text that is no document is malformed. Apart from that the reader can break down over a text: where it
asks for a character behind the last one of the text, or for a piece behind the last one of an array,
nothing can be had, and that is not taken for a malformed text.
-/

namespace WordLint

/-- An error that nobody has foreseen: its kind and its wording. -/
structure Breakdown where
  kind : String
  message : String
deriving Repr, DecidableEq

namespace Toml

/-- Why a text is not read. -/
inductive ReadError where
  /-- The text is no document. -/
  | malformed
  /-- The reader breaks down over the text. -/
  | breakdown (b : Breakdown)
deriving Repr, DecidableEq

/-- Something is asked for behind the last of its kind. -/
def pastEnd : Breakdown :=
  ⟨"IndexError", "list index out of range"⟩

/-- What has been found; a text is malformed where nothing has. -/
def orMalformed {α : Type} : Option α → Except ReadError α
  | some a => .ok a
  | none => .error .malformed

@[simp] theorem orMalformed_some {α : Type} (a : α) : orMalformed (some a) = .ok a := rfl

@[simp] theorem orMalformed_none {α : Type} : orMalformed (none : Option α) = .error .malformed := rfl

end Toml

end WordLint
