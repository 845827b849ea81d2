import WordLint.Value.Json

/-!
# What options a rule accepts

Options come as a value of any kind. A value that counts as false and is no container stands for no
options at all. Accepted are options themselves, an empty list or tuple, and a mapping whose keys are
known and whose values are lists of strings; a value is accepted as a whole or not at all. Everything
else is refused with a message that shows the value.
-/

namespace WordLint

/-- What a rule accepts. -/
structure Schema where
  rule : String
  /-- The known keys, in the order in which messages list them. -/
  keys : List String
  defaults : Options
deriving Repr, DecidableEq

/-- Why a value is refused. -/
inductive Objection where
  | notMapping (type : String)
  | unknownKey (key : Value)
  | notStrings (key : Value)
deriving Repr

namespace Schema

/-- The schema of the rule that blocks words. -/
def blockWords : Schema :=
  { rule := "block-words", keys := Group.list.map Group.key, defaults := .blank }

/-- A schema with its own name and keys. -/
def custom (rule : String) (keys : List String) : Schema :=
  { rule := rule, keys := keys, defaults := .blank }

end Schema

namespace Value

/-- The strings of a list or tuple that holds nothing else. -/
def strings? (v : Value) : Option (List String) := do
  (← v.items?).mapM str?

/-- A list or tuple of strings. -/
def isStringList (v : Value) : Bool :=
  v.strings?.isSome

/-- A value that stands for no options: it counts as false, and it is no mapping, list or tuple. -/
def isAbsent (v : Value) : Bool :=
  !v.truthy && v.entries?.isNone && v.items?.isNone

end Value

namespace Schema

/-- The first entry of a mapping that is refused. -/
def objectionTo? (s : Schema) : List (Value × Value) → Option Objection
  | [] => none
  | (key, value) :: rest =>
    if !key.str?.any s.keys.contains then some (.unknownKey key)
    else if !value.isStringList then some (.notStrings key)
    else s.objectionTo? rest

/-- Why a value is refused as a mapping of keys to lists of strings. -/
def objection? (s : Schema) (v : Value) : Option Objection :=
  match v.entries? with
  | none => some (.notMapping v.typeName)
  | some es => s.objectionTo? es

/-- The options that the entries of an accepted mapping denote. -/
def optionsOf (es : List (Value × Value)) : Options :=
  .ofGroups fun g => (Value.lookup? g.key es).bind Value.strings?

/-- The options that a value denotes, or why it is refused. -/
def read (s : Schema) (v : Value) : Except Objection Options :=
  match v with
  | .options o => .ok o
  | .list [] | .tuple [] => .ok .absent
  | _ =>
    match s.objection? v with
    | some o => .error o
    | none => .ok (optionsOf (v.entries?.getD []))

/-- The message about a value that is refused. -/
def refusal (s : Schema) (v : Value) : Except Text.NumeralError String := do
  let keys := String.intercalate ", " s.keys
  let shown ← v.serialize
  return s!"Expected an object with keys from \"{keys}\" and string array values for rule " ++
    s!"{s.rule} but got {shown}"

end Schema

end WordLint
