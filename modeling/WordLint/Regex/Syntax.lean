/-!
# Regular expressions

The expression that a pattern denotes. A character is given by its code point, for an escape may name
a code point that is no character; such an item matches nothing.

`Flag`s change how an expression is read and matched. The flags in force are a list; a scope adds
some and removes others, and the two alphabets exclude each other.
-/

namespace WordLint

/-- The switches of a pattern. -/
inductive Regex.Flag where
  /-- Letters match without regard to case. -/
  | ignoreCase
  /-- `^` and `$` also match at line feeds. -/
  | multiline
  /-- `.` also matches a line feed. -/
  | dotAll
  /-- Blanks and comments in the pattern are passed over. -/
  | verbose
  /-- The classes and case rules of ASCII. -/
  | ascii
  /-- The classes and case rules of Unicode. -/
  | unicode
  /-- Repetition is refused. -/
  | template
  /-- The classes of a locale; refused in every pattern. -/
  | locale
deriving Repr, DecidableEq

/-- The flags in force. -/
abbrev Regex.Mode := List Regex.Flag

/-- A position that an expression asks for without consuming a character. -/
inductive Regex.Anchor where
  | lineStart
  | lineEnd
  | textStart
  | textEnd
  | wordEdge
  | noWordEdge
deriving Repr, DecidableEq

/-- The classes with a name of one letter. -/
inductive Regex.CharClass where
  | digit
  | blank
  | word
deriving Repr, DecidableEq

/-- A member of a bracketed set. -/
inductive Regex.SetItem where
  | char (code : Nat)
  | range (low high : Nat)
  | named (cls : Regex.CharClass) (negated : Bool)
deriving Repr, DecidableEq

/-- How many characters an expression can consume. -/
structure Regex.Width where
  least : Nat
  most : Nat
deriving Repr, DecidableEq

/-- How a repetition chooses its count. -/
inductive Regex.Greed where
  /-- As often as possible, fewer times when what follows fails. -/
  | greedy
  /-- As rarely as possible, more often when what follows fails. -/
  | reluctant
  /-- As often as possible, and never fewer times. -/
  | possessive
deriving Repr, DecidableEq

/-- Which way a lookaround looks. Looking behind keeps the width of its body, which says how far. -/
inductive Regex.Direction where
  | ahead
  | behind (width : Regex.Width)
deriving Repr, DecidableEq

/-- A regular expression. -/
inductive Regex where
  | empty
  | any
  | char (code : Nat)
  | set (negated : Bool) (items : List Regex.SetItem)
  | anchor (a : Regex.Anchor)
  | cat (first second : Regex)
  | alt (first second : Regex)
  | group (index : Nat) (body : Regex)
  | scoped (add remove : List Regex.Flag) (body : Regex)
  | repeated (greed : Regex.Greed) (least : Nat) (most : Option Nat) (body : Regex)
  | look (direction : Regex.Direction) (negated : Bool) (body : Regex)
  | atomic (body : Regex)
  | backref (index : Nat)
  | conditional (index : Nat) (yes no : Regex)
deriving Repr, DecidableEq

namespace Regex

/-- The letter that switches a flag. -/
def Flag.ofLetter? : Char → Option Flag
  | 'i' => some .ignoreCase
  | 'L' => some .locale
  | 'm' => some .multiline
  | 's' => some .dotAll
  | 'x' => some .verbose
  | 'a' => some .ascii
  | 't' => some .template
  | 'u' => some .unicode
  | _ => none

/-- The flags that choose an alphabet. -/
def Flag.isAlphabet : Flag → Bool
  | .ascii | .unicode | .locale => true
  | _ => false

/-- The flags in force inside a scope. -/
def Mode.change (mode : Mode) (add remove : List Flag) : Mode :=
  let kept := if add.any Flag.isAlphabet then mode.filter (!·.isAlphabet) else mode
  (kept ++ add).filter (!remove.contains ·)

/-- The expressions one after the other. -/
def catAll : List Regex → Regex
  | [] => .empty
  | [r] => r
  | r :: rs => .cat r (catAll rs)

/-- The expressions as alternatives, first choice first. -/
def altAll : List Regex → Regex
  | [] => .empty
  | [r] => r
  | r :: rs => .alt r (altAll rs)

/-! ## Widths -/

/-- Widths are counted up to this bound. -/
def Width.bound : Nat := Nat.pow 2 64

/-- A width within the bound. -/
def Width.capped (least most : Nat) : Width :=
  ⟨min least bound, min most bound⟩

/-- How many characters an expression can consume, given the widths of the groups it refers to. -/
def width (groups : Nat → Width) : Regex → Width
  | .empty | .anchor _ | .look .. => ⟨0, 0⟩
  | .any | .char _ | .set .. => ⟨1, 1⟩
  | .cat r s =>
    let a := r.width groups
    let b := s.width groups
    .capped (a.least + b.least) (a.most + b.most)
  | .alt r s =>
    let a := r.width groups
    let b := s.width groups
    ⟨min a.least b.least, max a.most b.most⟩
  | .group _ r | .scoped _ _ r | .atomic r => r.width groups
  | .repeated _ least most r =>
    let a := r.width groups
    match most with
    | some n => .capped (a.least * least) (a.most * n)
    | none => .capped (a.least * least) (if a.most = 0 then 0 else Width.bound)
  | .backref i => groups i
  | .conditional _ yes no =>
    let a := yes.width groups
    let b := no.width groups
    ⟨min a.least b.least, max a.most b.most⟩

end Regex

end WordLint
