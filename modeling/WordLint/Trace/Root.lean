import WordLint.Trace.Layout

/-!
# The root of a trace

All records come to the root, which hands those that matter enough to its handlers. Setting a trace up gives
the root a level and one handler, the terminal, in place of all that it has had.

A handler that cannot lay a record out shows nothing of it; what is wrong is said elsewhere, and the
records behind it are shown as they would be otherwise.
-/

namespace WordLint

/-- Something that takes records. -/
inductive Handler where
  /-- The terminal, which shows records in a layout. -/
  | terminal (layout : String)
  /-- Another place, under a name; nothing of it is shown on the terminal. -/
  | elsewhere (name : String)
deriving Repr, DecidableEq

/-- What a handler shows of a record on the terminal. -/
def Handler.show? (paint : Paint) (r : LogRecord) : Handler → Option String
  | .terminal layout => (r.layOut paint layout).toOption
  | .elsewhere _ => none

/-- The root of a trace. -/
structure Root where
  level : Level
  handlers : List Handler
deriving Repr, DecidableEq

namespace Root

/-- Before any trace has been set up. -/
def initial : Root := ⟨Level.warning, []⟩

/-- The root without its handlers: they are gone through as they stand, and each is taken away. -/
def clear (root : Root) : Root :=
  { root with handlers := root.handlers.foldl List.erase root.handlers }

/-- One more handler, behind the others. -/
def add (root : Root) (h : Handler) : Root :=
  { root with handlers := root.handlers ++ [h] }

/-- Set a trace up. When its level cannot be told the root stays as it is. -/
def setUp (root : Root) (given : Option Level) (setting : Option String) :
    Except Text.NumeralError Root := do
  let level ← Level.start given setting
  return ({ root with level }.clear).add (.terminal (layoutFrom level))

/-- What is shown of some records on the terminal, one after the other. -/
def shown (paint : Paint) (root : Root) (records : List LogRecord) : List String :=
  (records.filter (·.shownFrom root.level)).flatMap fun r =>
    root.handlers.filterMap (·.show? paint r)

/-- What stands on the terminal then: a line for each. -/
def output (paint : Paint) (root : Root) (records : List LogRecord) : String :=
  String.join ((root.shown paint records).map (· ++ "\n"))

end Root

end WordLint
