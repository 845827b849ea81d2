import WordLint.Text.Cut
import WordLint.Toml.Draft
import WordLint.Toml.Name

/-!
# Values written as TOML

Texts stand between quotation marks, where controls, quotation marks and backslashes are escaped. In a
table the entries that fit on a line of their own come first; behind them come the tables inside it,
each with a header, and one blank line between a table and what stands above it. A table with nothing
but tables in it needs no header.
-/

namespace WordLint.Toml

/-! ## Texts and keys -/

/-- A character between quotation marks. -/
def basicChar (c : Char) : List Char :=
  if c = '"' || c = '\\' then ['\\', c]
  else if c = '\x08' then ['\\', 'b']
  else if c = '\t' then ['\\', 't']
  else if c = '\n' then ['\\', 'n']
  else if c = '\x0C' then ['\\', 'f']
  else if c = '\r' then ['\\', 'r']
  else if c.toNat < 0x20 || c.toNat = 0x7F then '\\' :: 'u' :: Text.hex 4 c.toNat
  else [c]

/-- A text between quotation marks. -/
def basicText (s : String) : String :=
  String.ofList ('"' :: s.toList.flatMap basicChar ++ ['"'])

/-- A key, between marks where it needs them. -/
def keyText (key : String) : String :=
  if !key.isEmpty && key.toList.all isBare then key else basicText key

/-- A key of a dictionary. -/
def entryKey (key : Value) : Except WriteProblem String :=
  match key with
  | .str s => .ok (keyText s)
  | _ => .error .badKey

/-- A comment, each line of it with a mark of its own. -/
def commentText (text : String) : String :=
  let lines := (Text.cutAt '\n' text.toList).map fun line =>
    if line.isEmpty then "#\n" else "# " ++ String.ofList line ++ "\n"
  String.join lines

/-! ## Values on one line -/

/-- A value is a dictionary. -/
def isTable : Value → Bool
  | .dict _ => true
  | _ => false

/-- A value is a list with nothing but dictionaries in it, and not empty. -/
def isTableList : Value → Bool
  | .list xs | .tuple xs => !xs.isEmpty && xs.all isTable
  | _ => false

/-- Some results, those about dictionaries last. -/
def tablesLast {α : Type} (results : List (Bool × α)) : List α :=
  ((results.filter (!·.1)) ++ results.filter (·.1)).map (·.2)

mutual

/-- A value on one line. -/
def inlineText : Value → Except WriteProblem String
  | .bool b => .ok (if b then "true" else "false")
  | .int n => (integerText n).mapError .numeral
  | .float x => .ok (String.ofList x.text)
  | .str s => .ok (basicText s)
  | .list xs | .tuple xs => do return "[" ++ commaSeparated (← inlineItems xs) ++ "]"
  | .dict es => do
    let entries ← (tablesLast (inlineEntries es)).mapM id
    return "\x7b" ++ commaSeparated entries ++ "\x7d"
  | .date d => .ok (String.ofList d.text)
  | .moment d t => .ok (String.ofList (d.text ++ 'T' :: t.text))
  | .time t => .ok (String.ofList t.text)
  | v => .error (.unwritable v.typeName)

/-- Items on one line. -/
def inlineItems : List Value → Except WriteProblem (List String)
  | [] => .ok []
  | x :: xs => do return (← inlineText x) :: (← inlineItems xs)

/-- Entries on one line, marked when they are dictionaries. -/
def inlineEntries : List (Value × Value) → List (Bool × Except WriteProblem String)
  | [] => []
  | (k, v) :: es =>
    let entry := do return (← entryKey k) ++ " = " ++ (← inlineText v)
    (isTable v, entry) :: inlineEntries es

end

/-! ## Tables -/

/-- An entry of a table as it is written: on a line of its own, or as one or more tables with headers. -/
structure Part where
  isDictionary : Bool
  isBlock : Bool
  /-- The text; a block has a blank line in front of it when something stands above it. -/
  text : (below : Bool) → Except WriteProblem String

/-- A blank line in front of a block, if something stands above it. -/
def gap (below : Bool) : String :=
  if below then "\n" else ""

/-- The parts of a table in the order in which they are written; `below` when something stands above the
first of them. -/
def joinParts (below : Bool) (parts : List Part) : Except WriteProblem String := do
  let texts ← parts.mapIdxM fun i p => do return (p.isBlock, ← p.text (below || 0 < i))
  return String.join (tablesLast texts)

/-- A table with its header, which is left out when it has nothing but tables in it. -/
def blockText (header : String) (below : Bool) (parts : List Part) : Except WriteProblem String := do
  let header := if !parts.isEmpty && parts.all (·.isBlock) then "" else header ++ "\n"
  return gap below ++ header ++ (← joinParts false parts)

/-- Entries on their own lines and tables, dictionaries last. -/
def dictionariesLast (parts : List Part) : List Part :=
  tablesLast (parts.map fun p => (p.isDictionary, p))

/-- Tables under one name, one after the other. -/
def tableListText (path : String) : (below : Bool) → List (List Part) → Except WriteProblem String
  | _, [] => .ok ""
  | below, parts :: rest => do
    let body ← joinParts false (dictionariesLast parts)
    return gap below ++ "[[" ++ path ++ "]]\n" ++ body ++ (← tableListText path true rest)

/-- An entry on a line of its own. -/
def lineText (key : String) (v : Value) : Except WriteProblem String := do
  return key ++ " = " ++ (← inlineText v) ++ "\n"

mutual

/-- A value under a key of the table with a path. -/
def partOf (path : String) (key : Value) : Value → Part
  | .dict es => ⟨true, true, fun below => do
      let path := path ++ "." ++ (← entryKey key)
      blockText ("[" ++ path ++ "]") below (dictionariesLast (partsOf path es))⟩
  | .list xs | .tuple xs => ⟨false, isTableList (.list xs), fun below => do
      let key ← entryKey key
      let path := path ++ "." ++ key
      if isTableList (.list xs) then tableListText path below (elementParts path xs)
      else lineText key (.list xs)⟩
  | v => ⟨false, false, fun _ => do lineText (← entryKey key) v⟩

/-- The entries of the table that a value is. -/
def innerParts (path : String) : Value → List Part
  | .dict es => partsOf path es
  | _ => []

/-- The entries of tables under one name. -/
def elementParts (path : String) : List Value → List (List Part)
  | [] => []
  | x :: rest => innerParts path x :: elementParts path rest

/-- The entries of a table. -/
def partsOf (path : String) : List (Value × Value) → List Part
  | [] => []
  | (k, v) :: rest => partOf path k v :: partsOf path rest

end

/-! ## Drafts -/

/-- The entries of a table, each of which stands for something. -/
def filledEntries (entries : List (Value × Value)) : Except WriteProblem (List (Value × Value)) :=
  entries.mapM fun e =>
    match e.2 with
    | .none => .error .noValue
    | _ => .ok e

/-- A table of a draft. -/
def draftTableText (parent : String) (t : DraftTable) : Except WriteProblem String := do
  let path := parent ++ "." ++ keyText t.name
  let parts := partsOf path (← filledEntries t.entries)
  return "[" ++ path ++ "]\n" ++ commentText t.comment ++ (← joinParts true parts)

/-- The tables of a draft, none of which has the name of one before it. -/
def draftTableTexts (parent : String) (before : List String) :
    List DraftTable → Except WriteProblem (List String)
  | [] => .ok []
  | t :: rest => do
    let text ← draftTableText parent t
    if before.contains t.name then .error (.keyTaken t.name)
    else return text :: (← draftTableTexts parent (t.name :: before) rest)

/-- The writer that comes with the library. -/
def write : Writer := fun d => do
  let tables ← draftTableTexts (keyText d.parent) [] d.tables
  return String.join (d.comments.map commentText) ++ "\n" ++ String.intercalate "\n" tables

end WordLint.Toml
