import WordLint.Text.Blank
import WordLint.Text.Letter
import WordLint.Toml.Document

/-!
# The first pass over a document

Before a document is read, its characters are gone through once, to find strings, comments, headers and
keys. A character of a key that can be no part of it, a line break in a string or a key, and a line that
begins with an equal sign end the pass: such a text is no document.

The pass asks for the next character behind a carriage return, and in a dotted key behind a point or a
blank that follows a blank. Where the text ends there, the reader breaks down.

What the pass has behind it can differ from the text: comments, carriage returns before line feeds and
line breaks in arrays become blanks. Looking back from the front of a text leads to its end.
-/

namespace WordLint.Toml

/-! ## The state of a pass -/

/-- Where a pass is with regard to the parts of a key. -/
inductive KeyPlace where
  | outside
  | inside
  | behind
deriving Repr, DecidableEq

/-- A pass over a text. -/
structure Pass where
  /-- The characters that have been passed, the nearest one first. -/
  passed : List Char
  key : KeyPlace
  /-- The key has a point. -/
  dotted : Bool
  /-- The mark of the string around. -/
  mark : Option Char
  /-- The string around has tripled marks. -/
  block : Bool
  comment : Bool
  /-- The arrays around. -/
  arrays : Int
  header : Bool
  /-- The header of one more table under a name. -/
  tables : Bool
  /-- Nothing but blanks since the line began. -/
  fresh : Bool
deriving Repr, DecidableEq

namespace Pass

/-- Before the first character. -/
def start : Pass where
  passed := []
  key := .outside
  dotted := false
  mark := none
  block := false
  comment := false
  arrays := 0
  header := false
  tables := false
  fresh := true

/-- The pass with a character behind it. -/
def leave (p : Pass) (c : Char) : Pass :=
  { p with passed := c :: p.passed }

/-- How often a character stands directly behind another one, given what is looked back at. -/
def runLength (c : Char) (back : List Char) : Nat :=
  (back.takeWhile (· == c)).length

/-- Nothing of headers and strings is around. -/
def isPlain (p : Pass) : Bool :=
  p.mark.isNone && !p.header && !p.tables

/-! ## Keys -/

/-- Ask for the next character of a dotted key: a new part begins with it, unless it is a blank or a
point. -/
def lookAhead (p : Pass) : List Char → Except ReadError Pass
  | [] => .error (.breakdown pastEnd)
  | next :: _ => .ok (if Text.isBlank next || next = '.' then p else { p with key := .inside })

/-- The end of a key. -/
def endKey (p : Pass) (c : Char) : Except ReadError Pass :=
  if c = '=' then .ok { p with key := .outside, dotted := false } else .error .malformed

/-- A character of a key; the equal sign behind it takes the pass out of the key. -/
def passKey (p : Pass) (c : Char) (rest : List Char) : Except ReadError Pass :=
  if c = '\n' then .error .malformed
  else match p.mark with
  | some mark =>
    if c = mark && runLength '\\' p.passed % 2 == 0 then .ok { p with key := .behind, mark := none }
    else .ok p
  | none =>
    if p.key = .inside then
      if Text.isBlank c then .ok { p with key := .behind }
      else if c = '.' then .ok { p with dotted := true }
      else if Text.isLetter c || Text.isNumber c || c = '_' || c = '-' then .ok p
      else if p.dotted && p.passed.head? = some '.' && isMark c then .ok { p with mark := some c }
      else p.endKey c
    else if Text.isBlank c then if p.dotted then p.lookAhead rest else .ok p
    else if c = '.' then { p with dotted := true }.lookAhead rest
    else p.endKey c

/-! ## Strings, comments and brackets -/

/-- A mark opens or closes a string. -/
def turn (p : Pass) (c : Char) (tripled : Bool) : Pass :=
  let opens := if tripled then !p.block else p.mark.isNone
  { p with block := if tripled then !p.block else p.block, mark := if opens then some c else none }

/-- A mark of a string, given what is looked back at; every other character is left alone. -/
def passMark (p : Pass) (c : Char) (back : List Char) : Pass :=
  let marks := runLength c (back.take 2)
  if c = '\'' && p.mark ≠ some '"' then p.turn c (marks == 2)
  else if c = '"' && p.mark ≠ some '\'' then
    let escaped := marks ≠ 1 && runLength '\\' (back.drop marks) % 2 == 1
    if escaped then p else p.turn c (marks == 2)
  else p

/-- A bracket of a header or an array; every other character is left alone. -/
def passBracket (p : Pass) (c : Char) (rest : List Char) : Pass :=
  if c = '[' && p.isPlain then
    if !p.fresh then { p with arrays := p.arrays + 1 }
    else if rest.head? = some '[' then { p with tables := true }
    else { p with header := true }
  else if c = ']' && p.mark.isNone then
    if p.header then { p with header := false }
    else if p.tables then { p with tables := p.passed.head? ≠ some ']' }
    else { p with arrays := p.arrays - 1 }
  else p

/-! ## Lines -/

/-- A line break. In a string with tripled marks it becomes a mark behind two marks; the one before
these, if there is one, is blanked. -/
def passBreak (p : Pass) : Except ReadError Pass :=
  if p.mark.isSome || p.block then
    if !p.block then .error .malformed
    else match p.passed with
      | a :: b :: _ =>
        if isMark a && b = a then
          .ok ({ p with passed := if p.passed[2]? = some a then p.passed.set 2 ' ' else p.passed }.leave a)
        else .ok (p.leave '\n')
      | _ => .ok (p.leave '\n')
  else if p.arrays ≠ 0 then .ok (p.leave ' ')
  else .ok ({ p with fresh := true }.leave '\n')

/-- A character that can be the first one of its line, and then begins a key unless it opens a header. -/
def passInLine (p : Pass) (c : Char) : Except ReadError Pass :=
  if !p.fresh || isSpace c then .ok (p.leave c)
  else if p.header || p.tables then .ok ({ p with fresh := false }.leave c)
  else if c = '=' then .error .malformed
  else .ok ({ p with fresh := false, key := .inside }.leave c)

/-! ## The whole text -/

/-- A character outside of keys and comments. -/
def passOutside (p : Pass) (c : Char) (rest : List Char) : Except ReadError Pass :=
  let p := p.passMark c (p.passed ++ (c :: rest).reverse)
  if c = '#' && p.isPlain then .ok ({ p with comment := true }.leave ' ')
  else
    let p := p.passBracket c rest
    if c = '\n' then p.passBreak else p.passInLine c

/-- Pass one character, given those ahead. -/
def step (p : Pass) (c : Char) (rest : List Char) : Except ReadError Pass :=
  if p.comment && c ≠ '\n' then .ok (p.leave ' ')
  else if c = '\r' && rest.isEmpty then .error (.breakdown pastEnd)
  else if c = '\r' && rest.head? = some '\n' then .ok (p.leave ' ')
  else if p.key = .outside then { p with comment := false }.passOutside c rest
  else do
    let after ← p.passKey c rest
    if after.key = .outside then after.passOutside c rest else return after.leave c

/-- Pass all characters of a text, which ends neither in a key nor in a string. -/
def run : Pass → List Char → Except ReadError Pass
  | p, [] => if p.key = .outside && p.mark.isNone then .ok p else .error .malformed
  | p, c :: rest => do (← p.step c rest).run rest

end Pass

/-! ## Reading -/

/-- Something that reads texts as documents: the entries of the document, or the reason why there are
none. -/
abbrev Reader := String → Except ReadError (List (Value × Value))

/-- Something that reads texts as documents whose tables can still be told from their values. -/
abbrev TableReader := String → Except ReadError Entries

/-- Read the tables of a text, once it has been passed. -/
def readTables : TableReader := fun text => do
  let _ ← Pass.start.run text.toList
  documentTables text

/-- Read a text as a document. -/
def read : Reader := fun text =>
  (readTables text).map toPairs

end WordLint.Toml
