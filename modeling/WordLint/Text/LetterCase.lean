import WordLint.Text.CaseTable

/-!
# Small and capital letters

`lower` and `upper` are the full mappings: a character may become several, and a Greek capital sigma
becomes a final sigma at the end of a word. `lowerLetter` is the mapping of one character to one
character, used where letters are compared without regard to case; `sameLetter` is that comparison.

A sigma stands at the end of a word when, passing over ignored characters, a cased character comes
before it and none comes after it.
-/

namespace WordLint.Text

/-- The first run that holds a code point. -/
def shiftOf? (shifts : List CaseShift) (n : Nat) : Option CaseShift :=
  shifts.find? (·.holds n)

/-- The small letter of a character, as one character. -/
def lowerLetter (c : Char) : Char :=
  if c.toNat < 0x80 then c.toLower
  else if c == 'İ' then 'i'
  else match shiftOf? lowerShifts c.toNat with
    | some s => s.move c.toNat
    | none => c

/-- The small form of a character outside any context. Only the dotted capital I becomes two
characters. -/
def lowerChar (c : Char) : List Char :=
  if c == 'İ' then ['i', '\u0307'] else [lowerLetter c]

/-- Whether, passing over the ignored characters, the first character that counts has case. -/
def meetsCased (cs : List Char) : Bool :=
  match cs.find? fun c => !caseIgnoredRanges.has c with
  | some c => casedRanges.has c
  | none => false

/-- The small sigma that a capital one becomes between what precedes it, nearest character first, and
what follows it. -/
def sigmaBetween (before after : List Char) : Char :=
  if meetsCased before && !meetsCased after then 'ς' else 'σ'

/-- The small form of a text of which `before` has been passed, nearest character first. -/
def lowerAfter (before : List Char) : List Char → List Char
  | [] => []
  | c :: rest =>
    (if c == 'Σ' then [sigmaBetween before rest] else lowerChar c) ++ lowerAfter (c :: before) rest

/-- The small form of a text. -/
def lower (s : String) : String :=
  String.ofList (lowerAfter [] s.toList)

/-- The capital form of a character. -/
def upperChar (c : Char) : List Char :=
  if c.toNat < 0x80 then [c.toUpper]
  else match upperExpansions.lookup c.toNat with
    | some ns => ns.map Char.ofNat
    | none => match shiftOf? upperShifts c.toNat with
      | some s => [s.move c.toNat]
      | none => [c]

/-- The capital form of a text. -/
def upper (s : List Char) : List Char :=
  s.flatMap upperChar

/-! ## Comparing letters without regard to case -/

/-- Small letters that share a capital without being each other's small form. -/
def sharedCapitals : List (List Char) := [
  ['i', 'ı'], ['s', 'ſ'], ['µ', 'μ'], ['\u0345', 'ι', '\u1FBE'], ['\u0390', '\u1FD3'], ['\u03B0', '\u1FE3'],
  ['β', 'ϐ'], ['ε', 'ϵ'], ['θ', 'ϑ'], ['κ', 'ϰ'], ['π', 'ϖ'], ['ρ', 'ϱ'], ['σ', 'ς'], ['φ', 'ϕ'],
  ['в', '\u1C80'], ['д', '\u1C81'], ['о', '\u1C82'], ['с', '\u1C83'], ['т', '\u1C84', '\u1C85'],
  ['ъ', '\u1C86'], ['ѣ', '\u1C87'], ['\uA64B', '\u1C88'], ['ṡ', 'ẛ'], ['\uFB05', '\uFB06']]

/-- A small letter with the small letters that share its capital. -/
def capitalClass (c : Char) : List Char :=
  (sharedCapitals.find? (·.contains c)).getD [c]

/-- Two characters are the same letter when their small forms are equal or share a capital. -/
def sameLetter (a b : Char) : Bool :=
  (capitalClass (lowerLetter a)).contains (lowerLetter b)

/-- The characters whose small form is `c`. -/
def withLower (c : Char) : List Char :=
  let capitals := lowerShifts.filterMap fun s =>
    let n := ((c.toNat : Int) - s.delta).toNat
    if s.holds n && s.move n == c then some (Char.ofNat n) else none
  let dotted := if c == 'i' then ['İ'] else []
  let itself := if lowerLetter c == c then [c] else []
  itself ++ capitals ++ dotted

/-- All characters that are the same letter as `c`. -/
def letterVariants (c : Char) : List Char :=
  (capitalClass (lowerLetter c)).flatMap withLower

end WordLint.Text
