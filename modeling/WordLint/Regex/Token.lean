/-!
# Tokens of a pattern

A pattern is read token by token. A backslash and the character after it are one token; a backslash
at the very end is a token of its own, which no reader passes.
-/

namespace WordLint.Regex

/-- A token of a pattern. -/
inductive Token where
  | char (c : Char)
  /-- A backslash and the character after it. -/
  | escape (c : Char)
  /-- A backslash with nothing after it. -/
  | dangling
deriving Repr, DecidableEq

/-- The tokens of a pattern, in order. -/
def tokens : List Char → List Token
  | [] => []
  | ['\\'] => [.dangling]
  | '\\' :: c :: rest => .escape c :: tokens rest
  | c :: rest => .char c :: tokens rest

/-- The characters of a token. -/
def Token.chars : Token → List Char
  | .char c => [c]
  | .escape c => ['\\', c]
  | .dangling => ['\\']

/-- How many characters a token takes. -/
def Token.width (t : Token) : Nat :=
  t.chars.length

/-- The token as text. -/
def Token.text (t : Token) : String :=
  String.ofList t.chars

end WordLint.Regex
