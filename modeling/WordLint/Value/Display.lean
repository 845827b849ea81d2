import WordLint.Text.Numeral
import WordLint.Value.Basic

/-!
# Values as text

`Value.display` shows a value with all that is inside it: strings in quotes, containers in brackets, and
dots in brackets for a container that is already being shown. `Value.text` shows it for a reader:
a string as it is, dates in their plain form, and a view as the mapping behind it. Integers with too many
digits cannot be shown.
-/

namespace WordLint

/-- The brackets of a container that another one can refer to. -/
inductive Brackets where
  | square
  | curly
deriving Repr, DecidableEq

/-- A container that is being shown further out. -/
def Brackets.dots : Brackets → String
  | .square => "[...]"
  | .curly => "\x7b...\x7d"

/-- Texts with commas between them. -/
def commaSeparated (texts : List String) : String :=
  String.intercalate ", " texts

/-- A tuple of texts: a single one has a comma behind it. -/
def tupleText : List String → String
  | [t] => "(" ++ t ++ ",)"
  | ts => "(" ++ commaSeparated ts ++ ")"

/-- An integer in decimal digits. -/
def integerText (n : Int) : Except Text.NumeralError String :=
  if Text.oversized n then .error .oversized else .ok (toString n)

/-- A group of patterns as a part of shown options. -/
def groupText (patterns : Option (List String)) : String :=
  match patterns with
  | none => "None"
  | some ps => tupleText (ps.map Text.quoted)

/-- Options shown as a record. -/
def Options.display (o : Options) : String :=
  let fields := Group.list.map fun g => g.field ++ "=" ++ groupText (o.get g)
  "BlockWordsOptions(" ++ commaSeparated fields ++ ")"

namespace Value

mutual

/-- A value inside containers with these brackets, innermost first. -/
def displayIn (around : List Brackets) : Value → Except Text.NumeralError String
  | .none => .ok "None"
  | .bool b => .ok (if b then "True" else "False")
  | .int n => integerText n
  | .float x => .ok (String.ofList x.text)
  | .str s => .ok (Text.quoted s)
  | .bytes bs => .ok (Text.quotedBytes bs)
  | .list xs => do return "[" ++ commaSeparated (← displayItems (.square :: around) xs) ++ "]"
  | .tuple xs => do return tupleText (← displayItems around xs)
  | .set xs => do
    if xs.isEmpty then return "set()"
    return "\x7b" ++ commaSeparated (← displayItems around xs) ++ "\x7d"
  | .dict es => do
    return "\x7b" ++ commaSeparated (← displayEntries (.curly :: around) es) ++ "\x7d"
  | .view v => do return "mappingproxy(" ++ (← displayIn around v) ++ ")"
  | .options o => .ok o.display
  | .date d => .ok d.constructorForm
  | .moment d t => .ok (momentForm d t)
  | .time t => .ok t.constructorForm
  | .up n => .ok ((around[n]?.map Brackets.dots).getD "...")

/-- The items of a container. -/
def displayItems (around : List Brackets) : List Value → Except Text.NumeralError (List String)
  | [] => .ok []
  | x :: xs => do return (← displayIn around x) :: (← displayItems around xs)

/-- The entries of a dictionary. -/
def displayEntries (around : List Brackets) :
    List (Value × Value) → Except Text.NumeralError (List String)
  | [] => .ok []
  | (k, v) :: es => do
    let key ← displayIn around k
    let value ← displayIn around v
    return (key ++ ": " ++ value) :: (← displayEntries around es)

end

/-- A value with all that is inside it. -/
def display (v : Value) : Except Text.NumeralError String :=
  displayIn [] v

/-- A value for a reader. -/
def text : Value → Except Text.NumeralError String
  | .str s => .ok s
  | .date d => .ok (String.ofList d.text)
  | .moment d t => .ok (String.ofList (momentText d t))
  | .time t => .ok (String.ofList t.text)
  | .view v => v.behind.display
  | v => v.display

/-- The name of a value's type. -/
def typeName : Value → String
  | .none => "NoneType"
  | .bool _ => "bool"
  | .int _ => "int"
  | .float _ => "float"
  | .str _ => "str"
  | .bytes _ => "bytes"
  | .list _ => "list"
  | .tuple _ => "tuple"
  | .set _ => "set"
  | .dict _ | .up _ => "dict"
  | .view _ => "mappingproxy"
  | .options _ => "blockwords.rules.block_words.options.BlockWordsOptions"
  | .date _ => "datetime.date"
  | .moment .. => "datetime.datetime"
  | .time _ => "datetime.time"

/-- The name of a value's type without the places that it is defined in. -/
def shortTypeName : Value → String
  | .options _ => "BlockWordsOptions"
  | v => v.typeName

end Value

end WordLint
