import WordLint.Regex.Syntax
import WordLint.Text.Letter
import WordLint.Text.LetterCase
import WordLint.Text.Blank
import WordLint.Text.Digit

/-!
# Matching by backtracking

`Regex.run` tries an expression at a point of a text and hands every point where it can end, best
first, to a continuation; the first success of the continuation is the result. All that a failed
attempt did to the captures is forgotten with it.

A repetition counts its rounds. Once it has the least count, a round is only started at a position
other than the one where the last such round was started, so a body that matches the empty text is
not repeated for ever.
-/

namespace WordLint.Regex

/-- A point of a match: a position in the text, and where groups were last opened and closed. -/
structure Point where
  position : Nat
  opened : List (Nat × Nat)
  closed : List (Nat × Nat)
deriving Repr, DecidableEq

/-- The point before any group. -/
def Point.start (position : Nat) : Point :=
  ⟨position, [], []⟩

/-- The point some characters further on. -/
def Point.advance (p : Point) (n : Nat) : Point :=
  { p with position := p.position + n }

/-- A group opens here. -/
def Point.openGroup (p : Point) (index : Nat) : Point :=
  { p with opened := (index, p.position) :: p.opened }

/-- A group closes here. -/
def Point.closeGroup (p : Point) (index : Nat) : Point :=
  { p with closed := (index, p.position) :: p.closed }

/-- The span that a group holds: it was opened and closed, and not opened again behind its end. -/
def Point.capture? (p : Point) (index : Nat) : Option (Nat × Nat) := do
  let s ← p.opened.lookup index
  let e ← p.closed.lookup index
  if s ≤ e then some (s, e) else none

/-! ## Single characters -/

/-- Whether letters match without regard to case. -/
def Mode.ignoresCase (mode : Mode) : Bool :=
  mode.contains .ignoreCase

/-- Whether classes are those of ASCII. -/
def Mode.isAscii (mode : Mode) : Bool :=
  mode.contains .ascii

/-- The characters that count as `c`: itself, and without regard to case the other forms of the
letter. -/
def variants (mode : Mode) (c : Char) : List Char :=
  if !mode.ignoresCase then [c]
  else if mode.isAscii then [c, c.toLower, c.toUpper]
  else c :: Text.letterVariants c

/-- A class holds a character. -/
def CharClass.holds (mode : Mode) (c : Char) : CharClass → Bool
  | .digit => if mode.isAscii then c.isDigit else Text.isDecimal c
  | .blank => if mode.isAscii then Text.isAsciiBlank c else Text.isBlank c
  | .word => if mode.isAscii then Text.isAsciiWord c else Text.isWord c

/-- The code point of a pattern stands for a character. -/
def codeMatches (mode : Mode) (code : Nat) (c : Char) : Bool :=
  code == c.toNat || (mode.ignoresCase && (variants mode c).any (·.toNat == code))

/-- A set item holds a character. -/
def SetItem.holds (mode : Mode) (c : Char) : SetItem → Bool
  | .char code => codeMatches mode code c
  | .range low high => (variants mode c).any fun v => low ≤ v.toNat && v.toNat ≤ high
  | .named cls negated => cls.holds mode c != negated

/-- A set holds a character: one of its items does, or, negated, none. -/
def setHolds (mode : Mode) (negated : Bool) (items : List SetItem) (c : Char) : Bool :=
  items.any (·.holds mode c) != negated

/-- Two characters of the text are the same to a reference. -/
def sameChar (mode : Mode) (a b : Char) : Bool :=
  a == b || (mode.ignoresCase &&
    if mode.isAscii then a.toLower == b.toLower else Text.lowerLetter a == Text.lowerLetter b)

/-! ## Positions -/

/-- The character before a position. -/
def before? (text : Array Char) (position : Nat) : Option Char :=
  if position = 0 then none else text[position - 1]?

/-- An anchor holds at a position. -/
def Anchor.holds (text : Array Char) (mode : Mode) (position : Nat) : Anchor → Bool
  | .textStart => position == 0
  | .textEnd => position == text.size
  | .lineStart =>
    position == 0 || (mode.contains .multiline && before? text position == some '\n')
  | .lineEnd =>
    position == text.size ||
      (text[position]? == some '\n' && (mode.contains .multiline || position + 1 == text.size))
  | .wordEdge => text.size != 0 && wordAt position != wordBefore
  | .noWordEdge => text.size != 0 && wordAt position == wordBefore
where
  isWord (c : Option Char) : Bool := c.any fun c => CharClass.word.holds mode c
  wordAt (i : Nat) : Bool := isWord text[i]?
  wordBefore : Bool := isWord (before? text position)

/-- The text from `position` on repeats the text between two positions. -/
def repeats (text : Array Char) (mode : Mode) (position : Nat) : Nat → Nat → Bool
  | _, 0 => true
  | start, n + 1 =>
    (match text[position]?, text[start]? with
      | some a, some b => sameChar mode a b
      | _, _ => false) && repeats text mode (position + 1) (start + 1) n

/-! ## Repetition -/

/-- What tries an expression at a point with a continuation. -/
abbrev Attempt := Point → (Point → Option Point) → Option Point

/-- One more round is allowed after `count` of them. -/
def allowed (most : Option Nat) (count : Nat) : Bool :=
  most.all (count < ·)

/-- Rounds of a greedy repetition. -/
def greedyRounds (body : Attempt) (least : Nat) (most : Option Nat) :
    Nat → Nat → Option Nat → Attempt
  | 0, _, _, p, k => k p
  | fuel + 1, count, last, p, k =>
    if count < least then
      body p fun q => greedyRounds body least most fuel (count + 1) last q k
    else if allowed most count && last != some p.position then
      (body p fun q => greedyRounds body least most fuel (count + 1) (some p.position) q k) <|> k p
    else k p

/-- Rounds of a reluctant repetition. -/
def reluctantRounds (body : Attempt) (least : Nat) (most : Option Nat) :
    Nat → Nat → Option Nat → Attempt
  | 0, _, _, p, k => k p
  | fuel + 1, count, last, p, k =>
    if count < least then
      body p fun q => reluctantRounds body least most fuel (count + 1) last q k
    else
      k p <|>
        if allowed most count && last != some p.position then
          body p fun q => reluctantRounds body least most fuel (count + 1) (some p.position) q k
        else none

/-- Rounds of a possessive repetition: each is settled before the next one starts. -/
def possessiveRounds (body : Attempt) (least : Nat) (most : Option Nat) :
    Nat → Nat → Option Nat → Point → Option Point
  | 0, _, _, p => some p
  | fuel + 1, count, last, p =>
    if count < least then
      match body p some with
      | some q => possessiveRounds body least most fuel (count + 1) last q
      | none => none
    else if allowed most count && last != some p.position then
      match body p some with
      | some q => possessiveRounds body least most fuel (count + 1) (some p.position) q
      | none => some p
    else some p

/-! ## Expressions -/

/-- Consume one character that passes a test. -/
def step (text : Array Char) (test : Char → Bool) : Attempt := fun p k =>
  match text[p.position]? with
  | some c => if test c then k (p.advance 1) else none
  | none => none

/-- Try an expression at a point of a text. -/
def run (text : Array Char) : Regex → Mode → Attempt
  | .empty, _, p, k => k p
  | .any, mode, p, k => step text (fun c => mode.contains .dotAll || c != '\n') p k
  | .char code, mode, p, k => step text (codeMatches mode code) p k
  | .set negated items, mode, p, k => step text (setHolds mode negated items) p k
  | .anchor a, mode, p, k => if a.holds text mode p.position then k p else none
  | .cat r s, mode, p, k => r.run text mode p fun q => s.run text mode q k
  | .alt r s, mode, p, k => r.run text mode p k <|> s.run text mode p k
  | .group index r, mode, p, k => r.run text mode (p.openGroup index) fun q => k (q.closeGroup index)
  | .scoped add remove r, mode, p, k => r.run text (mode.change add remove) p k
  | .repeated greed least most r, mode, p, k =>
    let fuel := least + text.size + 2
    match greed with
    | .greedy => greedyRounds (r.run text mode) least most fuel 0 none p k
    | .reluctant => reluctantRounds (r.run text mode) least most fuel 0 none p k
    | .possessive => (possessiveRounds (r.run text mode) least most fuel 0 none p).bind k
  | .look direction negated r, mode, p, k =>
    let found := match direction with
      | .ahead => r.run text mode p some
      | .behind width =>
        if width.least ≤ p.position then
          r.run text mode { p with position := p.position - width.least } some
        else none
    match found with
    | some q => if negated then none else k { q with position := p.position }
    | none => if negated then k p else none
  | .atomic r, mode, p, k => (r.run text mode p some).bind k
  | .backref index, mode, p, k =>
    match p.capture? index with
    | some (s, e) =>
      if repeats text mode p.position s (e - s) then k (p.advance (e - s)) else none
    | none => none
  | .conditional index yes no, mode, p, k =>
    if (p.capture? index).isSome then yes.run text mode p k else no.run text mode p k

end WordLint.Regex
