import WordLint.Toml.Name
import WordLint.Toml.Piece
import WordLint.Toml.Scalar
import WordLint.Toml.Table

/-!
# TOML documents

A document is read line by line: headers open tables, and every other line sets a key of the table that
was opened last. The items of an array must be of one type, and a piece of an array that is blank holds
no item.

Values nest as deeply as arrays and inline tables do; the fuel of their readers counts the characters that a
value can take, of which every level takes some.
-/

namespace WordLint.Toml

/-! ## Blanks and comments -/

/-- What follows blanks, line breaks and comments. -/
def skipLines : List Char → List Char
  | [] => []
  | c :: rest =>
    if isSpace c || c = '\n' then skipLines rest
    else if c = '#' then skipLines (rest.dropWhile (· ≠ '\n'))
    else c :: rest
termination_by cs => cs.length
decreasing_by
  · simp
  · have := (rest.dropWhile_sublist (· ≠ '\n')).length_le
    simp only [List.length_cons]
    omega

/-- What follows the end of a line, with a comment perhaps. -/
def endLine? (cs : List Char) : Option (List Char) :=
  match cs.dropWhile isSpace with
  | [] => some []
  | '\n' :: rest => some rest
  | '#' :: rest => some (rest.dropWhile (· ≠ '\n'))
  | _ => none

/-! ## Values -/

/-- The types that the items of an array must agree in. -/
inductive ItemType where
  | string
  | integer
  | float
  | truth
  | array
  | table
  | date
  | time
deriving Repr, DecidableEq

/-- The type of an item. -/
def itemType : Value → ItemType
  | .int _ => .integer
  | .float _ => .float
  | .bool _ => .truth
  | .list _ => .array
  | .dict _ => .table
  | .date _ | .moment .. => .date
  | .time _ => .time
  | _ => .string

/-- A character that a scalar without quotes goes on with. -/
def isScalarChar (c : Char) : Bool :=
  !([',', ']', '\x7d', '#', '\n'].contains c)

/-- A scalar without quotes at the front. -/
def plainScalar? (strict : Bool) (cs : List Char) : Option (Value × List Char) :=
  let text := cs.takeWhile isScalarChar
  (scalar? strict (Text.trim text)).map (·, cs.drop text.length)

mutual

/-- A value at the front. -/
def readValue : Nat → Bool → List Char → Except ReadError (Value × List Char)
  | 0, _, _ => .error .malformed
  | fuel + 1, strict, cs =>
    match cs with
    | '[' :: rest => do
      let (text, after) ← orMalformed (arrayText? rest)
      let items ← readItems fuel none (← readPieces text)
      return (.list items, after)
    | '\x7b' :: rest =>
      match rest.dropWhile isSpace with
      | '\x7d' :: rest => .ok (.dict [], rest)
      | rest => do
        let (entries, rest) ← readEntries fuel [] rest
        return (.dict (toPairs entries), rest)
    | c :: _ =>
      orMalformed <|
        if isMark c then (string? cs).map fun (s, rest) => (.str (String.ofList s), rest)
        else plainScalar? strict cs
    | [] => .error .malformed

/-- The items of the pieces of an array, given the type of those before them. -/
def readItems : Nat → Option ItemType → List (List Char) → Except ReadError (List Value)
  | 0, _, _ => .error .malformed
  | _ + 1, _, [] => .ok []
  | fuel + 1, type, piece :: rest => do
    let piece := Text.trim piece
    match piece with
    | [] => readItems fuel type rest
    | c :: _ =>
      let (v, after) ←
        if isMark c then orMalformed ((pieceString? piece).map fun s => (.str (String.ofList s), []))
        else readValue fuel false piece
      if after.isEmpty && type.all (· = itemType v) then
        return v :: (← readItems fuel (some (itemType v)) rest)
      else .error .malformed

/-- The entries of an inline table up to its closing brace, after those that have been read. -/
def readEntries : Nat → Entries → List Char → Except ReadError (Entries × List Char)
  | 0, _, _ => .error .malformed
  | fuel + 1, before, cs => do
    let (path, rest) ← orMalformed (key? cs)
    let key ← orMalformed path.getLast?
    match rest with
    | '=' :: rest => do
      let (v, rest) ← readValue fuel true (rest.dropWhile isSpace)
      let entries ← orMalformed (setPath path.dropLast key v before)
      match rest.dropWhile isSpace with
      | ',' :: rest => readEntries fuel entries rest
      | '\x7d' :: rest => .ok (entries, rest)
      | _ => .error .malformed
    | _ => .error .malformed

end

/-- How many characters a value at the front can take at most. An array ends where it is closed, whatever
stands behind it. -/
def extent (cs : List Char) : Nat :=
  match cs with
  | '[' :: rest => (arrayText? rest).elim 0 fun (text, _) => text.length + 2
  | cs => cs.length

/-! ## Lines -/

/-- A document as far as it has been read: its tables, and the path of the one that is open. -/
structure Progress where
  entries : Entries
  path : List String

/-- Before the first line. -/
def Progress.start : Progress := ⟨[], []⟩

/-- Open the table with a name. -/
def Progress.open? (p : Progress) (names : List String) (how : String → Entries → Option Entries) :
    Option Progress := do
  let key ← names.getLast?
  return ⟨← within false (how key) names.dropLast p.entries, names⟩

/-- The header of a table. -/
def header? (p : Progress) (cs : List Char) : Option (Progress × List Char) := do
  let (text, rest) ← headerText? none cs
  return (← p.open? (← headerNames? text) openTable, ← endLine? rest)

/-- The header of one more table under a name. -/
def arrayHeader? (p : Progress) (cs : List Char) : Option (Progress × List Char) := do
  let (text, rest) ← headerText? none cs
  match rest with
  | ']' :: rest => return (← p.open? (← headerNames? text) openNext, ← endLine? rest)
  | _ => none

/-- Set a key of the open table, given the parts of its name. -/
def Progress.set? (p : Progress) (names : List String) (v : Value) : Option Progress := do
  let key ← names.getLast?
  return ⟨← within false (setPath names.dropLast key v) p.path p.entries, p.path⟩

/-- A line that sets a key. -/
def readAssignment (p : Progress) (cs : List Char) : Except ReadError (Progress × List Char) := do
  let (path, rest) ← orMalformed (key? cs)
  match rest with
  | '=' :: rest => do
    let cs := rest.dropWhile isSpace
    let (v, rest) ← readValue (extent cs + 1) true cs
    orMalformed do return (← p.set? path v, ← endLine? rest)
  | _ => .error .malformed

/-- The lines of a document. -/
def readLines : Nat → Progress → List Char → Except ReadError Progress
  | 0, _, _ => .error .malformed
  | fuel + 1, p, cs =>
    match skipLines cs with
    | [] => .ok p
    | '[' :: '[' :: rest => do
      let (p, rest) ← orMalformed (arrayHeader? p rest)
      readLines fuel p rest
    | '[' :: rest => do
      let (p, rest) ← orMalformed (header? p rest)
      readLines fuel p rest
    | cs => do
      let (p, rest) ← readAssignment p cs
      readLines fuel p rest

/-- The text with a blank for each carriage return before a line feed. -/
def blankReturns : List Char → List Char
  | '\r' :: '\n' :: rest => ' ' :: '\n' :: blankReturns rest
  | c :: rest => c :: blankReturns rest
  | [] => []

/-- The tables of a document, its text apart from what the first pass refuses. -/
def documentTables (text : String) : Except ReadError Entries :=
  let cs := blankReturns text.toList
  (readLines (cs.length + 1) .start cs).map (·.entries)

end WordLint.Toml
