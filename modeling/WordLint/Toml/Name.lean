import WordLint.Text.Blank
import WordLint.Text.Cut
import WordLint.Toml.Quote

/-!
# Names in a TOML document

The name of a table is made of parts with points between them, and so is a key. A part is bare, or
stands between marks.

In the header of a table a quoted part stands as it is, without escapes, and each of its marks opens or
closes a quoted part, escaped or not. The escapes of a key with one part are resolved, those by code
point excepted; the parts of a dotted key stand as they are.
-/

namespace WordLint.Toml

/-- A character of a part without marks. -/
def isBare (c : Char) : Bool :=
  c.isAlphanum || c == '-' || c == '_'

/-- A part without marks. -/
def bare? (part : List Char) : Option String :=
  if part.isEmpty || !part.all isBare then none else some (String.ofList part)

/-! ## Headers -/

/-- The text of a header up to its closing bracket on the same line, and what follows; `quoted` is the
mark of the quoted part around. -/
def headerText? : Option Char → List Char → Option (List Char × List Char)
  | _, [] => none
  | quoted, c :: rest =>
    if c = '\n' then none
    else if c = ']' && quoted.isNone then some ([], rest)
    else
      let quoted := match quoted with
        | none => if isMark c then some c else none
        | some mark => if c = mark then none else some mark
      (headerText? quoted rest).map fun (text, after) => (c :: text, after)

/-- The parts of a header as far as they are read: those that are complete, and a quoted one that is
not. -/
structure HeaderParts where
  done : List String
  quoted : Option (List Char)

/-- Take a part that begins with a mark, if it is complete. -/
def HeaderParts.takeQuoted (p : HeaderParts) (part : List Char) : HeaderParts :=
  let trimmed := Text.trim part
  if 1 < trimmed.length && trimmed.head? = trimmed.getLast? then
    ⟨p.done ++ [String.ofList trimmed.tail.dropLast], none⟩
  else ⟨p.done, some part⟩

/-- Take what stands between two points. -/
def HeaderParts.take? (p : HeaderParts) (between : List Char) : Option HeaderParts :=
  match p.quoted with
  | some part => some (p.takeQuoted (part ++ '.' :: between))
  | none =>
    let part := Text.trim between
    if (part.head?.map isMark).getD false then some (p.takeQuoted part)
    else (bare? part).map fun name => ⟨p.done ++ [name], none⟩

/-- The parts of the name in a header, none of which is empty. -/
def headerNames? (text : List Char) : Option (List String) := do
  let parts ← (Text.cutAt '.' text).foldlM HeaderParts.take? ⟨[], none⟩
  if parts.quoted.isSome || parts.done.contains "" then none else some parts.done

/-! ## Keys -/

/-- The text up to a mark, and what follows the mark. An escaped quotation mark does not count. -/
def upToMark? (mark : Char) : List Char → Option (List Char × List Char)
  | [] => none
  | '\\' :: c :: rest =>
    if mark = '"' then
      (upToMark? mark rest).map fun (text, after) => ('\\' :: c :: text, after)
    else if c = mark then some (['\\'], rest)
    else (upToMark? mark rest).map fun (text, after) => ('\\' :: c :: text, after)
  | c :: rest =>
    if c = mark then some ([], rest)
    else if c = '\n' then none
    else (upToMark? mark rest).map fun (text, after) => (c :: text, after)

/-- A part of a key at the front: whether it is quoted, its text, and what follows. -/
def keyPart? (cs : List Char) : Option ((Bool × List Char) × List Char) :=
  match cs with
  | c :: rest =>
    if isMark c then (upToMark? c rest).map fun (text, after) => ((true, text), after)
    else
      let part := cs.takeWhile isBare
      if part.isEmpty then none else some ((false, part), cs.drop part.length)
  | [] => none

/-- The parts of a key at the front. -/
def keyParts? : Nat → List Char → Option (List (Bool × List Char) × List Char)
  | 0, _ => none
  | fuel + 1, cs => do
    let (part, rest) ← keyPart? (cs.dropWhile isSpace)
    match rest.dropWhile isSpace with
    | '.' :: rest => do
      let (more, rest) ← keyParts? fuel rest
      return (part :: more, rest)
    | rest => return ([part], rest)

/-- A key at the front. -/
def key? (cs : List Char) : Option (List String × List Char) := do
  let (parts, rest) ← keyParts? (cs.length + 1) cs
  match parts with
  | [(true, text)] => return ([String.ofList (← unescaped? text)], rest)
  | parts => return (parts.map fun part => String.ofList part.2, rest)

end WordLint.Toml
