import WordLint.Text.Blank
import WordLint.Text.LetterCase

/-!
# Start tags

A start tag is `<`, a name that starts with a letter of ASCII, attributes, and `>` or `/>`. Between
attributes stand separators: blanks, and slashes that do not close the tag. An attribute is a name and
perhaps a value behind equal signs; the value stands between quotes, or is bare and then ends at a
blank or at `>`.

The scanner never gives a character up for lost. A quote that is not closed takes no value: blanks
before it make the value empty, a second equal sign before it starts a bare value, and otherwise the
attribute has no value. Each function says how many characters it took, so that what follows can be
found by dropping them.
-/

namespace WordLint.Tag

/-- A letter of ASCII. -/
def isLetter (c : Char) : Bool :=
  c.isAlpha

/-- A character that can stand in a tag name after its first letter. -/
def isNameChar (c : Char) : Bool :=
  !(['\t', '\n', '\r', '\x0C', ' ', '/', '>', '\x00'].contains c)

/-- Quotes around values. -/
def isQuote (c : Char) : Bool :=
  c == '\'' || c == '"'

/-- An attribute as it is written: name and value in the spelling of the document, quotes removed. -/
structure RawAttribute where
  name : List Char
  value : List Char
deriving Repr, DecidableEq

/-! ## Separators and values -/

/-- The separators at the front. -/
def separators : List Char → List Char
  | [] => []
  | c :: rest =>
    if Text.isBlank c || (c = '/' && rest.head? ≠ some '>') then c :: separators rest else []

/-- A character of a bare value. -/
def isBare (c : Char) : Bool :=
  !Text.isBlank c && c != '>'

/-- A value, and the characters taken for it. -/
structure ValueScan where
  value : List Char
  taken : List Char

/-- The value behind an attribute name, if there is one. -/
def value? (cs : List Char) : Option ValueScan :=
  let before := cs.takeWhile Text.isBlank
  let signs := (cs.drop before.length).takeWhile (· == '=')
  let behind := cs.drop (before.length + signs.length)
  let after := behind.takeWhile Text.isBlank
  let rest := behind.drop after.length
  let bare (signs rest : List Char) : ValueScan :=
    ⟨rest.takeWhile isBare, signs ++ rest.takeWhile isBare⟩
  if signs.isEmpty then none
  else match rest with
    | [] => some (bare (before ++ signs ++ after) rest)
    | q :: more =>
      if !isQuote q then some (bare (before ++ signs ++ after) rest)
      else
        let inner := more.takeWhile (· != q)
        if inner.length < more.length then
          some ⟨inner, before ++ signs ++ after ++ q :: inner ++ [q]⟩
        else if !after.isEmpty then some ⟨[], before ++ signs ++ after.dropLast⟩
        else if 1 < signs.length then some (bare (before ++ signs.dropLast) ('=' :: rest))
        else none

/-! ## Attributes -/

/-- An attribute may start behind this character. -/
def admitsAttribute (c : Char) : Bool :=
  isQuote c || Text.isBlank c || c == '/'

/-- The first character of an attribute name. -/
def isAttributeStart (c : Char) : Bool :=
  !Text.isBlank c && c != '/' && c != '>'

/-- A further character of an attribute name. -/
def isAttributeChar (c : Char) : Bool :=
  isAttributeStart c && c != '='

/-- Some attributes, and how many characters they and the separators behind them take. -/
structure AttributeScan where
  attributes : List RawAttribute
  length : Nat

/-- The attributes at the front, when the character before is `last`. -/
def attributes (last : Char) : List Char → AttributeScan
  | [] => ⟨[], 0⟩
  | c :: rest =>
    if admitsAttribute last && isAttributeStart c then
      let tail := rest.takeWhile isAttributeChar
      let behindName := rest.drop tail.length
      let scan := (value? behindName).getD ⟨[], []⟩
      let behindValue := behindName.drop scan.taken.length
      let gap := separators behindValue
      let taken := tail ++ scan.taken ++ gap
      let more := attributes (taken.getLast?.getD c) (behindValue.drop gap.length)
      ⟨⟨c :: tail, scan.value⟩ :: more.attributes, 1 + taken.length + more.length⟩
    else ⟨[], 0⟩
termination_by cs => cs.length
decreasing_by simp only [List.length_drop, List.length_cons]; omega

/-! ## The whole tag -/

/-- What a `<` and a letter begin. The lengths count from the `<`. -/
inductive Scan where
  /-- A start tag; `close` when it ends in `/>`. -/
  | tag (name : List Char) (attributes : List RawAttribute) (close : Bool) (length : Nat)
  /-- A tag that a stray character breaks off. -/
  | broken (length : Nat)
  /-- A tag without an end. -/
  | unfinished
deriving Repr, DecidableEq

/-- A character where a tag is unfinished rather than broken. -/
def isUnfinishedAt (c : Char) : Bool :=
  isLetter c || c == '=' || c == '/'

/-- Scan a start tag, given what follows the `<`. -/
def scan (cs : List Char) : Scan :=
  let name := cs.takeWhile isNameChar
  let behindName := cs.drop name.length
  let gap := separators behindName
  let attrs := attributes ((name ++ gap).getLast?.getD '<') (behindName.drop gap.length)
  let length := 1 + name.length + gap.length + attrs.length
  match cs.drop (name.length + gap.length + attrs.length) with
  | '>' :: _ => .tag name attrs.attributes false (length + 1)
  | '/' :: '>' :: _ => .tag name attrs.attributes true (length + 2)
  | c :: _ => if isUnfinishedAt c then .unfinished else .broken length
  | [] => .unfinished

end WordLint.Tag
