import Mathlib
import WordLint.Markup.Document
import WordLint.Proofs.Markup.Reference
import WordLint.Proofs.Text.Characters

/-!
# Tokens and how they are written

A token is a start tag, an end tag, a comment or a text. Its parts carry what makes them well-formed: a
name is a letter followed by letters, digits and hyphens, the body of a comment cannot end the comment,
and a text is not empty and opens no markup. The values of attributes are any strings; they are escaped
when they are written.

`print` writes a token, and `Token.eventAt` says which event it is to be read as. Two conditions cannot
be put into a single token: no text follows on another one, and no tag opens an element with raw content.
`WellFormed` says so of a list of tokens.
-/

namespace WordLint.Markup

/-! ## Names -/

/-- A letter or digit of ASCII, or a hyphen. -/
def isWordChar (c : Char) : Bool :=
  c.isAlphanum || c == '-'

/-- A name of a tag or of an attribute: a letter, and further letters, digits and hyphens. -/
structure Name where
  first : Char
  rest : List Char
  first_letter : first.isAlpha = true
  rest_word : rest.all isWordChar = true

namespace Name

/-- The characters of a name. -/
def chars (n : Name) : List Char :=
  n.first :: n.rest

/-- The name in small letters. -/
def lower (n : Name) : String :=
  String.ofList (n.chars.map Char.toLower)

end Name

/-! ## Comments and texts -/

/-- The body of a comment. It holds no two hyphens in a row and does not end in one. -/
structure CommentBody where
  chars : List Char
  no_hyphens : ¬ ['-', '-'] <:+: chars
  no_hyphen_end : chars.getLast? ≠ some '-'

/-- A text with no markup in it. -/
structure PlainText where
  chars : List Char
  ne_nil : chars ≠ []
  no_markup : '<' ∉ chars

/-! ## Tokens -/

/-- A token: what is written in one piece and read as one event. -/
inductive Token where
  /-- A start tag; `close` when it is written with `/>`. -/
  | startTag (name : Name) (attributes : List (Name × String)) (close : Bool)
  | endTag (name : Name)
  | comment (body : CommentBody)
  | text (content : PlainText)

/-- An attribute without the space before it. -/
def printBare (a : Name × String) : List Char :=
  a.1.chars ++ '=' :: '"' :: (Reference.escape a.2.toList ++ ['"'])

/-- An attribute. -/
def printAttribute (a : Name × String) : List Char :=
  ' ' :: printBare a

/-- The end of a start tag. -/
def printEnd (close : Bool) : List Char :=
  if close then ['/', '>'] else ['>']

namespace Token

/-- How a token is written. -/
def print : Token → List Char
  | .startTag name attributes close =>
    '<' :: (name.chars ++ (attributes.flatMap printAttribute ++ printEnd close))
  | .endTag name => '<' :: '/' :: (name.chars ++ ['>'])
  | .comment body => '<' :: '!' :: '-' :: '-' :: (body.chars ++ ['-', '-', '>'])
  | .text content => content.chars

/-- The event that a token is to be read as when it is written at a place: its kind, its markup, the
names in small letters, and the attributes in order with their own values. -/
def eventAt (place : Place) (t : Token) : Event :=
  match t with
  | .startTag name attributes close =>
    { kind := .startTag, line := place.line, col := place.col, raw := String.ofList t.print,
      element := some name.lower, attributes := attributes.map fun a => ⟨a.1.lower, a.2⟩,
      close := close }
  | .endTag name =>
    { kind := .endTag, line := place.line, col := place.col, raw := String.ofList t.print,
      element := some name.lower, attributes := [], close := false }
  | .comment _ =>
    { kind := .comment, line := place.line, col := place.col, raw := String.ofList t.print,
      element := none, attributes := [], close := false }
  | .text _ =>
    { kind := .text, line := place.line, col := place.col, raw := String.ofList t.print,
      element := none, attributes := [], close := false }

/-- The role of a token's only part. -/
def role : Token → Role
  | .startTag name attributes close =>
    .startTag name.lower (attributes.map fun a => ⟨a.1.lower, a.2⟩) close
  | .endTag name => .endTag name.lower
  | .comment _ => .comment
  | .text _ => .text

/-- A token is a text. -/
def isText : Token → Bool
  | .text _ => true
  | _ => false

/-- A token opens an element with raw content. -/
def opensRaw : Token → Bool
  | .startTag name _ close => !close && rawElements.contains name.lower
  | _ => false

/-- The references of a token are readable. All those in a tag are. -/
def Readable : Token → Prop
  | .text content => ¬ Reference.Overlong content.chars
  | _ => True

/-- Completing the part of a token gives its event. -/
theorem complete_eq_eventAt (place : Place) (t : Token) :
    Open.complete ⟨place, t.role, t.print⟩ = t.eventAt place := by
  cases t <;> rfl

end Token

/-- How tokens are written: one behind the other. -/
def print (ts : List Token) : List Char :=
  ts.flatMap Token.print

/-- The events that tokens are to be read as when the first one is written at a place. -/
def eventsAt (place : Place) : List Token → List Event
  | [] => []
  | t :: ts => t.eventAt place :: eventsAt (t.print.foldl Place.after place) ts

/-- No text follows on another one, and no tag opens an element with raw content. -/
structure WellFormed (ts : List Token) : Prop where
  texts_apart : ts.IsChain fun t u => (t.isText && u.isText) = false
  no_raw : ∀ t ∈ ts, t.opensRaw = false

theorem WellFormed.tail {t : Token} {ts : List Token} (h : WellFormed (t :: ts)) : WellFormed ts :=
  ⟨h.texts_apart.tail, fun u hu => h.no_raw u (List.mem_cons_of_mem _ hu)⟩

/-! ## The characters of names -/

/-- What a scanner asks about a character, answered for the characters of names. -/
structure WordFacts (c : Char) : Prop where
  tagName : Tag.isNameChar c = true
  attributeStart : Tag.isAttributeStart c = true
  attributeChar : Tag.isAttributeChar c = true
  endName : isEndNameChar c = true
  not_blank : Text.isBlank c = false
  ne_close : c ≠ '>'
  lowerChar : Text.lowerChar c = [c.toLower]
  ne_sigma : (c == 'Σ') = false

/-- The characters of names are in ASCII. -/
theorem toNat_lt_of_isWordChar {c : Char} (h : isWordChar c = true) : c.toNat < 128 := by
  rw [isWordChar, Bool.or_eq_true, beq_iff_eq] at h
  rcases h with h | rfl
  · exact Text.toNat_lt_of_isAlphanum h
  · decide

theorem wordFacts {c : Char} (h : isWordChar c = true) : WordFacts c := by
  have this := Text.forall_ascii (P := fun c => isWordChar c = true →
    (Tag.isNameChar c && Tag.isAttributeStart c && Tag.isAttributeChar c && isEndNameChar c &&
      !Text.isBlank c && c != '>' && Text.lowerChar c == [c.toLower] && c != 'Σ') = true)
    (by decide +kernel) (toNat_lt_of_isWordChar h) h
  simp only [Bool.and_eq_true, Bool.not_eq_true', bne_iff_ne, beq_iff_eq] at this
  obtain ⟨⟨⟨⟨⟨⟨⟨h1, h2⟩, h3⟩, h4⟩, h5⟩, h6⟩, h7⟩, h8⟩ := this
  exact ⟨h1, h2, h3, h4, h5, h6, h7, by simpa using h8⟩

end WordLint.Markup
