import WordLint.Markup.Event
import WordLint.Markup.Fault
import WordLint.Markup.Tag
import WordLint.Markup.Reference.Basic

/-!
# Pieces of a document

A document is cut into pieces from left to right, each with a role. `Piece.atMarkup` cuts at a `<`,
`Piece.ofContent` anywhere in ordinary content, and `Piece.ofRaw` inside a script or a style sheet,
where only the end tag of that element counts.

A piece keeps the number of its characters less one, so every piece has at least one character and
cutting comes to an end. Nothing is skipped: a construct without an end is text up to the next `>`, or
else to the next `<`, or else the one character. A piece can be silent, which means that it belongs to
whatever came before it: an end tag without a name, and what remains of a script that is never closed.
-/

namespace WordLint.Markup

/-- What a piece of a document is. -/
inductive Role where
  | startTag (name : String) (attributes : List Attribute) (close : Bool)
  | endTag (name : String)
  | text
  | comment
  /-- No event of its own. -/
  | silent
deriving Repr, DecidableEq

/-- A piece: its role, and the number of characters after its first. -/
structure Piece where
  role : Role
  extra : Nat
deriving Repr, DecidableEq

/-- A piece of a number of characters; it has at least one. -/
def Piece.ofLength (role : Role) (length : Nat) : Piece :=
  ⟨role, length - 1⟩

/-! ## Looking ahead -/

/-- How many characters there are up to and including the first `c`. -/
def lengthThrough? (c : Char) (cs : List Char) : Option Nat :=
  (cs.findIdx? (· == c)).map (· + 1)

/-- The characters in small letters. -/
def small (cs : List Char) : String :=
  Text.lower (String.ofList cs)

/-- Text whose references must be readable. -/
def textPiece (cs : List Char) : Except Fault Piece :=
  match Reference.decode cs with
  | .ok _ => .ok (.ofLength .text cs.length)
  | .error e => .error (.reference e)

/-! ## Constructs without an end -/

/-- A `<` whose construct has no end, given what follows it. -/
def unended (rest : List Char) : Except Fault Piece :=
  let length := match lengthThrough? '>' rest with
    | some n => n
    | none => (lengthThrough? '<' rest).elim 0 (· - 1)
  textPiece ('<' :: rest.take length)

/-- A construct that starts with `opening` and ends where a search behind the opening says. -/
def upTo (role : Role) (opening : Nat) (rest : List Char)
    (search : List Char → Option Nat) : Except Fault Piece :=
  match search (rest.drop (opening - 1)) with
  | some n => .ok (.ofLength role (opening + n))
  | none => unended rest

/-! ## End tags -/

/-- A character of a well-formed end tag's name after its first letter. -/
def isEndNameChar (c : Char) : Bool :=
  c.isAlphanum || c == '-' || c == '.' || c == ':' || c == '_'

/-- A well-formed end tag, given what follows `</`: its name, with blanks around it, and `>`. -/
def wellFormedEnd? (cs : List Char) : Option (List Char × Nat) :=
  let before := cs.takeWhile Text.isBlank
  let name := (cs.drop before.length).takeWhile isEndNameChar
  let behind := cs.drop (before.length + name.length)
  let after := behind.takeWhile Text.isBlank
  if name.head?.any Tag.isLetter && (behind.drop after.length).head? = some '>' then
    some (name, before.length + name.length + after.length + 1)
  else none

/-- What `</` begins, given what follows it. -/
def endTag (cs : List Char) : Except Fault Piece :=
  match lengthThrough? '>' cs with
  | none => unended ('/' :: cs)
  | some through =>
    match wellFormedEnd? cs with
    | some (name, n) => .ok (.ofLength (.endTag (small name)) (2 + n))
    | none =>
      if cs.head?.any Tag.isLetter then
        .ok (.ofLength (.endTag (small (cs.takeWhile Tag.isNameChar))) (2 + through))
      else if cs.head? = some '>' then .ok (.ofLength .silent 3)
      else .ok (.ofLength .comment (2 + through))

/-! ## Comments, declarations and sections -/

/-- How many characters there are up to the end of a comment: two hyphens, blanks and `>`. -/
def commentEnd? : List Char → Option Nat
  | '-' :: '-' :: rest =>
    let gap := rest.takeWhile Text.isBlank
    if (rest.drop gap.length).head? = some '>' then some (gap.length + 3)
    else (commentEnd? ('-' :: rest)).map (· + 1)
  | _ :: rest => (commentEnd? rest).map (· + 1)
  | [] => none

/-- How many characters there are up to a bracket, blanks and `>`; with `double`, up to two brackets
with blanks between them. -/
def sectionEnd? (double : Bool) : List Char → Option Nat
  | [] => none
  | c :: rest =>
    if c = ']' then
      let gap := rest.takeWhile Text.isBlank
      let behind := rest.drop gap.length
      let here := if double then
          match behind with
          | ']' :: more =>
            let gap' := more.takeWhile Text.isBlank
            if (more.drop gap'.length).head? = some '>' then some (gap.length + gap'.length + 3)
            else none
          | _ => none
        else if behind.head? = some '>' then some (gap.length + 2)
        else none
      match here with
      | some n => some n
      | none => (sectionEnd? double rest).map (· + 1)
    else (sectionEnd? double rest).map (· + 1)

/-- A character of a section's keyword after its first letter. -/
def isKeywordChar (c : Char) : Bool :=
  c.isAlphanum || c == '-' || c == '_' || c == '.'

/-- Sections that end in two brackets. -/
def doubleSections : List String := ["temp", "cdata", "ignore", "include", "rcdata"]

/-- Sections that end in one bracket. -/
def singleSections : List String := ["if", "else", "endif"]

/-- A section, given what follows its `<![`. -/
def bracketSection (cs : List Char) : Except Fault Piece :=
  let whole := '!' :: '[' :: cs
  let keyword := cs.takeWhile isKeywordChar
  let gap := (cs.drop keyword.length).takeWhile Text.isBlank
  if cs.isEmpty then unended whole
  else if !keyword.head?.any Tag.isLetter then
    .error (.keywordMissing (('<' :: whole).take 20))
  else if keyword.length + gap.length = cs.length then unended whole
  else if doubleSections.contains (small keyword) then upTo .text 3 whole (sectionEnd? true)
  else if singleSections.contains (small keyword) then upTo .text 3 whole (sectionEnd? false)
  else .error (.keywordUnknown (keyword ++ gap))

/-- The word of a document type declaration. -/
def doctype : String := "doctype"

/-- What `<!` begins, given what follows it. -/
def declaration (cs : List Char) : Except Fault Piece :=
  match cs with
  | '-' :: '-' :: _ => upTo .comment 4 ('!' :: cs) commentEnd?
  | '[' :: more => bracketSection more
  | _ =>
    if small (cs.take doctype.length) = doctype then
      upTo .text (2 + doctype.length) ('!' :: cs) (lengthThrough? '>')
    else upTo .comment 2 ('!' :: cs) (lengthThrough? '>')

/-! ## Start tags -/

/-- An attribute in the form that events give it. -/
def readAttribute (a : Tag.RawAttribute) : Except Fault Attribute :=
  match Reference.decode a.value with
  | .ok value => .ok ⟨small a.name, String.ofList value⟩
  | .error e => .error (.reference e)

/-- What `<` and a letter begin, given what follows the `<`. -/
def startTag (cs : List Char) : Except Fault Piece :=
  match Tag.scan cs with
  | .tag name attributes close length => do
    return .ofLength (.startTag (small name) (← attributes.mapM readAttribute) close) length
  | .broken length => .ok (.ofLength .text length)
  | .unfinished => unended cs

/-! ## Ordinary content -/

/-- The piece that starts with a `<`, given what follows it. -/
def Piece.atMarkup (rest : List Char) : Except Fault Piece :=
  match rest with
  | '/' :: cs => endTag cs
  | '?' :: _ => upTo .text 2 rest (lengthThrough? '>')
  | '!' :: cs => declaration cs
  | c :: _ => if Tag.isLetter c then startTag rest else .ok (.ofLength .text 1)
  | [] => .ok (.ofLength .text 1)

/-- The piece at the front of ordinary content. -/
def Piece.ofContent (c : Char) (rest : List Char) : Except Fault Piece :=
  if c = '<' then Piece.atMarkup rest else textPiece (c :: rest.takeWhile (· != '<'))

/-! ## Scripts and style sheets -/

/-- The elements whose content is raw. -/
def rawElements : List String := ["script", "style"]

/-- Inside an element with raw content, or not. -/
abbrev Inside := Option String

/-- Where a piece leads: into a raw element by its start tag, otherwise out of every one. -/
def Role.inside : Role → Inside
  | .startTag name _ close => if !close && rawElements.contains name then some name else none
  | _ => none

/-- Letters that spell a name without regard to case. -/
def spells (name letters : List Char) : Bool :=
  name.length == letters.length && (name.zip letters).all fun p => Text.sameLetter p.1 p.2

/-- The end tag of a raw element at the front: its letters, and its length. -/
def closing? (name : List Char) (cs : List Char) : Option (List Char × Nat) :=
  match cs with
  | '<' :: '/' :: rest =>
    let before := rest.takeWhile Text.isBlank
    let letters := (rest.drop before.length).take name.length
    let behind := rest.drop (before.length + name.length)
    let after := behind.takeWhile Text.isBlank
    if spells name letters && (behind.drop after.length).head? = some '>' then
      some (letters, before.length + name.length + after.length + 3)
    else none
  | _ => none

/-- How many characters there are before the next end tag of a raw element. -/
def lengthBefore? (name : List Char) : List Char → Option Nat
  | [] => none
  | c :: rest =>
    if (closing? name (c :: rest)).isSome then some 0 else (lengthBefore? name rest).map (· + 1)

/-- The piece at the front of raw content, and whether the content goes on behind it. The end tag may
be spelled with letters outside ASCII that differ only in case, but then it does not close the
element. -/
def Piece.ofRaw (name : String) (cs : List Char) : Piece × Inside :=
  match lengthBefore? name.toList cs with
  | none => (.ofLength .silent cs.length, some name)
  | some (n + 1) => (⟨.text, n⟩, some name)
  | some 0 =>
    match closing? name.toList cs with
    | none => (⟨.text, 0⟩, some name)
    | some (letters, length) =>
      if letters.all (·.toNat < 0x80) then (.ofLength (.endTag name) length, none)
      else (.ofLength .text length, some name)

/-- The piece at the front of content, and where it leads. -/
def Piece.first (inside : Inside) (c : Char) (rest : List Char) : Except Fault (Piece × Inside) :=
  match inside with
  | some name => .ok (Piece.ofRaw name (c :: rest))
  | none => do
    let piece ← Piece.ofContent c rest
    return (piece, piece.role.inside)

/-! ## The whole document -/

/-- A piece with its characters. -/
structure Part where
  role : Role
  chars : List Char
deriving Repr, DecidableEq

/-- The parts of a document from left to right, and the fault that cuts them short. -/
def parts (inside : Inside) : List Char → List Part × Option Fault
  | [] => ([], none)
  | c :: rest =>
    match Piece.first inside c rest with
    | .error fault => ([], some fault)
    | .ok (piece, next) =>
      let more := parts next (rest.drop piece.extra)
      (⟨piece.role, c :: rest.take piece.extra⟩ :: more.1, more.2)
termination_by cs => cs.length
decreasing_by simp only [List.length_drop, List.length_cons]; omega

end WordLint.Markup
