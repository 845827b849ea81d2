import WordLint.Text.Blank

/-!
# Strings of a TOML document

A string stands between quotation marks, with escapes, or between apostrophes, without any. Either mark
may be tripled: the string can then hold line breaks and single marks. A line break directly behind
the opening marks is left out, and so are the blanks at the end of the first line; a backslash at the
end of a line joins the line to the next word.

Tripled marks are told by what has been read, escapes resolved: a string on one line that is one mark,
or that begins with two, counts as one with tripled marks, and two characters go at either end.
-/

namespace WordLint.Toml

/-! ## Escapes -/

/-- The number with these hexadecimal digits, if all of them are. -/
def hexNumber? (cs : List Char) : Option Nat :=
  cs.foldlM (fun n c =>
    if c.isDigit then some (16 * n + (c.toNat - '0'.toNat))
    else if 'a' ≤ c.toLower && c.toLower ≤ 'f' then
      some (16 * n + (c.toLower.toNat - 'a'.toNat + 10))
    else none) 0

/-- The character that a letter behind a backslash stands for. -/
def escapeChar? : Char → Option Char
  | '0' => some '\x00'
  | 'b' => some '\x08'
  | 't' => some '\t'
  | 'n' => some '\n'
  | 'f' => some '\x0C'
  | 'r' => some '\r'
  | '"' => some '"'
  | '\\' => some '\\'
  | _ => none

/-- Every backslash has the letter of an escape behind it. -/
def escapesKnown : List Char → Bool
  | '\\' :: c :: rest => (c == 'u' || c == 'U' || (escapeChar? c).isSome) && escapesKnown rest
  | _ :: rest => escapesKnown rest
  | [] => true

/-- A text with its escapes resolved, those by code point excepted. -/
def unescaped? : List Char → Option (List Char)
  | [] => some []
  | '\\' :: c :: rest =>
    if c = 'u' || c = 'U' then (unescaped? rest).map ('\\' :: c :: ·)
    else do return (← escapeChar? c) :: (← unescaped? rest)
  | c :: rest => (unescaped? rest).map (c :: ·)

/-- The character with a code point in hexadecimal digits at the front, and how many digits there are:
fewer than usual only where the next escape with this letter follows. -/
def codeChar? (letter : Char) (digits : Nat) (cs : List Char) : Option (Char × Nat) := do
  let front := (cs.take digits).takeWhile fun c => (hexNumber? [c]).isSome
  if front.length ≠ digits && (front.isEmpty || (cs.drop front.length).take 2 ≠ ['\\', letter]) then none
  let n ← hexNumber? front
  if n.isValidChar then some (Char.ofNat n, front.length) else none

/-- A text with the escapes by code point resolved that have this letter. A backslash that is escaped
itself (`odd`: an odd number of backslashes stands before it) starts none; but behind the first escape
that is resolved (no longer `fresh`) that makes no difference. -/
def resolveCodes? (letter : Char) (digits : Nat) (fresh odd : Bool) : List Char → Option (List Char)
  | '\\' :: c :: rest =>
    if c = letter then
      if fresh && odd then (resolveCodes? letter digits fresh false rest).map ('\\' :: c :: ·)
      else do
        let (e, n) ← codeChar? letter digits rest
        return e :: (← resolveCodes? letter digits false false (rest.drop n))
    else (resolveCodes? letter digits fresh (!odd) (c :: rest)).map ('\\' :: ·)
  | c :: rest => (resolveCodes? letter digits fresh false rest).map (c :: ·)
  | [] => some []
termination_by cs => cs.length

/-- What a string between these marks stands for: between quotation marks escapes are resolved, those by
code point before the others. -/
def resolved? (mark : Char) (cs : List Char) : Option (List Char) :=
  if mark ≠ '"' then some cs
  else if !escapesKnown cs then none
  else do unescaped? (← resolveCodes? 'U' 8 true false (← resolveCodes? 'u' 4 true false cs))

/-! ## Strings -/

/-- A mark that strings stand between. -/
def isMark (c : Char) : Bool :=
  c == '"' || c == '\''

/-- The text of a string up to a mark on the same line, and what follows the mark: `none` when there is no
such mark. Between quotation marks a character may be `escaped` by the backslash before it. -/
def lineText? (mark : Char) : (escaped : Bool) → List Char → Option (List Char × Option (List Char))
  | escaped, [] => if escaped then none else some ([], none)
  | escaped, c :: rest =>
    if !escaped && c = mark then some ([], some rest)
    else if !escaped && c = '\n' then none
    else
      (lineText? mark (!escaped && mark = '"' && c = '\\') rest).map fun (more, rest) =>
        (c :: more, rest)

/-- Blanks inside a line. -/
def isSpace (c : Char) : Bool :=
  c == ' ' || c == '\t'

/-- Whether a backslash is followed by nothing but blanks on its line. -/
def joinsLines (cs : List Char) : Bool :=
  (cs.dropWhile isSpace).head? = some '\n'

/-- The text of a string up to three marks, and what follows them. -/
def blockText? (mark : Char) : List Char → Option (List Char × List Char)
  | [] => none
  | c :: rest =>
    if c = mark && rest.take 2 = [mark, mark] then some ([], rest.drop 2)
    else if mark = '"' && c = '\\' then
      if joinsLines rest then
        blockText? mark (rest.drop (rest.takeWhile fun c => isSpace c || c == '\n').length)
      else
        match rest with
        | e :: rest => (blockText? mark rest).map fun (more, rest) => (c :: e :: more, rest)
        | [] => none
    else (blockText? mark rest).map fun (more, rest) => (c :: more, rest)
termination_by cs => cs.length

/-- What is left of a string on one line when its first characters are taken for tripled marks. -/
def withoutMarks (mark : Char) : List Char → List Char
  | [c] => if c = mark then [] else [c]
  | a :: b :: rest => if a = mark && b = mark then rest.dropLast.dropLast else a :: b :: rest
  | [] => []

/-- Characters without a line break at the front. -/
def dropBreak : List Char → List Char
  | '\n' :: rest => rest
  | cs => cs

/-- Characters without blanks at the end of the first line. -/
def trimFirstLine (cs : List Char) : List Char :=
  let line := cs.takeWhile (· ≠ '\n')
  (line.reverse.dropWhile Text.isBlank).reverse ++ cs.drop line.length

/-- What follows a string at the front, with its marks, whatever escapes it holds. -/
def behindString? (cs : List Char) : Option (List Char) :=
  match cs with
  | mark :: rest =>
    if !isMark mark then none
    else if rest.take 2 = [mark, mark] then (blockText? mark (dropBreak (rest.drop 2))).map (·.2)
    else (lineText? mark false rest).bind (·.2)
  | [] => none

/-- A string at the front, with its marks, and what follows. -/
def string? (cs : List Char) : Option (List Char × List Char) := do
  let after ← behindString? cs
  match cs with
  | mark :: rest =>
    if rest.take 2 = [mark, mark] then
      let body := dropBreak (rest.drop 2)
      let (s, _) ← blockText? mark (trimFirstLine (body.take (body.length - after.length)))
      return (← resolved? mark s, after)
    else
      let (s, _) ← lineText? mark false rest
      return (withoutMarks mark (← resolved? mark s), after)
  | [] => none

end WordLint.Toml
