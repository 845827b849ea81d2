import WordLint.Text.Blank
import WordLint.Text.Cut
import WordLint.Toml.Quote
import WordLint.Toml.ReadError

/-!
# The pieces of an array

An array is cut into pieces before any of its items is read. Where the items are arrays it is cut at the
commas outside of them; where they are inline tables each table is a piece; and otherwise at all commas.
When the first item is a string, a piece that does not end in the mark with which it begins is joined to
the next one: so a comma directly behind an opening mark, blanks aside, ends an item. Where pieces have been
joined up to the last one and still do not end so, the reader breaks down.
-/

namespace WordLint.Toml

/-! ## Brackets -/

/-- The text up to the bracket that closes what has been opened `depth` levels further out, and what
follows that bracket: `none` when there is none. Brackets in strings do not count, and comments and line
breaks outside of strings become blanks. Each call takes a character, which is what the fuel counts. -/
def enclosed? (opening closing : Char) : Nat → Nat → List Char →
    Option (List Char × Option (List Char))
  | 0, _, _ => none
  | _ + 1, _, [] => some ([], none)
  | fuel + 1, depth, c :: rest =>
    let goOn (taken : List Char) (depth : Nat) (rest : List Char) :=
      (enclosed? opening closing fuel depth rest).map fun (text, after) => (taken ++ text, after)
    if isMark c then do
      let after ← behindString? (c :: rest)
      goOn ((c :: rest).take (rest.length + 1 - after.length)) depth after
    else if c = '#' then goOn [' '] depth (rest.dropWhile (· ≠ '\n'))
    else if c = '\n' then goOn [' '] depth rest
    else if c = opening then goOn [c] (depth + 1) rest
    else if c = closing then
      match depth with
      | 0 => some ([], some rest)
      | depth + 1 => goOn [c] depth rest
    else goOn [c] depth rest

/-- A text without its last character, blanks at its end aside. -/
def withoutLast (cs : List Char) : List Char :=
  (cs.reverse.dropWhile Text.isBlank).tail.reverse

/-- The text of an array behind its opening bracket, and what follows the array. When the document ends
in an array, the last character of the document counts as the closing bracket. -/
def arrayText? (cs : List Char) : Option (List Char × List Char) := do
  let (text, after) ← enclosed? '[' ']' (cs.length + 1) 0 cs
  return match after with
    | some after => (text, after)
    | none => (withoutLast text, [])

/-! ## Cutting -/

/-- A text cut at the commas outside of brackets, `depth` of which are open. -/
def cutBetweenArrays : Int → List Char → List (List Char)
  | _, [] => [[]]
  | depth, c :: rest =>
    if c = '[' then Text.consFirst c (cutBetweenArrays (depth + 1) rest)
    else if c = ']' then Text.consFirst c (cutBetweenArrays (depth - 1) rest)
    else if c = ',' && depth = 0 then [] :: cutBetweenArrays depth rest
    else Text.consFirst c (cutBetweenArrays depth rest)

/-- The inline tables of a text, each with its braces. -/
def inlineTables : Nat → List Char → List (List Char)
  | 0, _ => []
  | fuel + 1, cs =>
    match cs.dropWhile (· ≠ '\x7b') with
    | [] => []
    | c :: rest =>
      match enclosed? '\x7b' '\x7d' (rest.length + 1) 0 rest with
      | some (text, some after) => (c :: text ++ ['\x7d']) :: inlineTables fuel after
      | _ => [c :: rest]

/-! ## Strings -/

/-- A piece begins with one character three times, and neither of the two before its last one is the same. -/
def opensBlock (piece : List Char) : Bool :=
  match piece with
  | a :: b :: c :: _ => a = b && b = c && (piece.reverse.tail.take 2).all (· ≠ a)
  | _ => false

/-- A piece with a string ends in the mark with which it begins, or in three of them if it begins with
three, and the mark is not escaped. -/
def isComplete (piece : List Char) : Bool :=
  match piece with
  | [] => true
  | first :: rest =>
    piece.getLast? = some first &&
      (rest.dropLast.reverse.takeWhile (· == '\\')).length % 2 == 0 && !opensBlock piece

/-- Pieces joined where a string goes on behind a comma; `joined` is what has been joined to the piece
at the front. The last piece need not be complete, unless it has been joined. -/
def joinStrings (joined : List Char) : List (List Char) → Except ReadError (List (List Char))
  | [] => .ok []
  | piece :: rest =>
    let whole := joined ++ piece
    if isComplete (Text.trim whole) || (rest.isEmpty && joined.isEmpty) then
      (joinStrings [] rest).map (whole :: ·)
    else if rest.isEmpty then .error (.breakdown pastEnd)
    else joinStrings (whole ++ [',']) rest

/-- The pieces of the text of an array. -/
def readPieces (text : List Char) : Except ReadError (List (List Char)) :=
  match Text.trim text with
  | '[' :: _ => .ok (cutBetweenArrays 0 text)
  | '\x7b' :: _ => .ok (inlineTables (text.length + 1) text)
  | c :: _ => if isMark c then joinStrings [] (Text.cutAt ',' text) else .ok (Text.cutAt ',' text)
  | [] => .ok []

/-- The string that a piece is. A string that its piece does not close ends before the last character
of the piece. -/
def pieceString? (piece : List Char) : Option (List Char) :=
  match piece with
  | mark :: rest =>
    if rest.take 2 = [mark, mark] then
      match string? piece with
      | some (s, []) => some s
      | _ => none
    else
      match lineText? mark false rest with
      | some (s, some []) => (resolved? mark s).map (withoutMarks mark)
      | some (s, none) => (resolved? mark s).map List.dropLast
      | _ => none
  | [] => none

end WordLint.Toml
