/-!
# Text in bytes

Text is read from bytes in UTF-8, in the one form that every character has: no longer forms, no
surrogates, nothing above the last code point. A failure names the bytes that cannot be read: the
longest front of a character, when something else follows it, and all bytes to the end, when the data
ends inside of a character.
-/

namespace WordLint.Text

/-- Why bytes are no text. -/
inductive Utf8Problem where
  | invalidStart
  | invalidContinuation
  | unexpectedEnd
deriving Repr, DecidableEq

/-- The wording of a problem. -/
def Utf8Problem.message : Utf8Problem → String
  | .invalidStart => "invalid start byte"
  | .invalidContinuation => "invalid continuation byte"
  | .unexpectedEnd => "unexpected end of data"

/-- Where bytes are no text: the position, the first byte there, and how many bytes cannot be read. -/
structure Utf8Failure where
  position : Nat
  byte : Nat
  count : Nat
  problem : Utf8Problem
deriving Repr, DecidableEq

/-- The number of bytes of a character with this first byte. -/
def width? (lead : Nat) : Option Nat :=
  if lead < 0x80 then some 1
  else if lead < 0xC2 then none
  else if lead < 0xE0 then some 2
  else if lead < 0xF0 then some 3
  else if lead < 0xF5 then some 4
  else none

/-- A byte may follow the first one. -/
def follows (lead byte : Nat) : Bool :=
  let low := if lead = 0xE0 then 0xA0 else if lead = 0xF0 then 0x90 else 0x80
  let high := if lead = 0xED then 0x9F else if lead = 0xF4 then 0x8F else 0xBF
  low ≤ byte && byte ≤ high

/-- A byte may stand behind the second one. -/
def continues (byte : Nat) : Bool :=
  0x80 ≤ byte && byte ≤ 0xBF

/-- The bytes behind the first one that belong to its character, `count` at most. -/
def tailOf (lead count : Nat) (bytes : List Nat) : List Nat :=
  match count, bytes with
  | n + 1, b :: rest => if follows lead b then b :: (rest.take n).takeWhile continues else []
  | _, _ => []

/-- The character with this first byte and these bytes behind it. -/
def charOf (lead : Nat) (tail : List Nat) : Char :=
  let front := match tail.length with
    | 0 => lead
    | 1 => lead - 0xC0
    | 2 => lead - 0xE0
    | _ => lead - 0xF0
  Char.ofNat (tail.foldl (fun n b => 64 * n + (b - 0x80)) front)

/-- The text in some bytes, the first of which is at a position. -/
def decodeFrom (position : Nat) : List Nat → Except Utf8Failure (List Char)
  | [] => .ok []
  | lead :: rest =>
    match width? lead with
    | none => .error ⟨position, lead, 1, .invalidStart⟩
    | some width =>
      let tail := tailOf lead (width - 1) rest
      if tail.length + 1 = width then
        (decodeFrom (position + width) (rest.drop tail.length)).map (charOf lead tail :: ·)
      else
        let problem := if tail.length = rest.length then Utf8Problem.unexpectedEnd
          else .invalidContinuation
        .error ⟨position, lead, tail.length + 1, problem⟩
termination_by bytes => bytes.length

/-- The text in some bytes. -/
def decode (bytes : List Nat) : Except Utf8Failure (List Char) :=
  decodeFrom 0 bytes

/-- A text with single line feeds as line breaks. -/
def unifyBreaks : List Char → List Char
  | '\r' :: '\n' :: rest => '\n' :: unifyBreaks rest
  | c :: rest => (if c = '\r' then '\n' else c) :: unifyBreaks rest
  | [] => []

end WordLint.Text
