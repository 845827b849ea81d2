/-!
# Colours of a terminal

What is shown in a style asks a `Paint` for the text in that style, whatever that does to the text.

On a terminal a style is a pair of control sequences around a text. Styled lines are closed at their end and
opened again on the next one, so that a line that is shown alone keeps its style. Where the terminal has no
colours the text stays as it is.
-/

namespace WordLint

/-- The styles in use. -/
inductive Style where
  | red
  | brightRed
  | green
  | yellow
  | blue
  | gray
  | dimRed
deriving Repr, DecidableEq

/-- How texts are put into styles. -/
abbrev Paint := Style → String → String

namespace Style

/-- A control sequence that sets an attribute. -/
def control (code : Nat) : List Char :=
  '\x1B' :: '[' :: (Nat.toDigits 10 code ++ ['m'])

/-- The codes that open and close a style, outermost first. -/
def codes : Style → List (Nat × Nat)
  | .red => [(31, 39)]
  | .brightRed => [(91, 39)]
  | .green => [(32, 39)]
  | .yellow => [(33, 39)]
  | .blue => [(34, 39)]
  | .gray => [(90, 39)]
  | .dimRed => [(2, 22), (31, 39)]

/-- What opens a style. -/
def opening (s : Style) : List Char :=
  s.codes.flatMap fun c => control c.1

/-- What closes a style. -/
def closing (s : Style) : List Char :=
  s.codes.flatMap fun c => control c.2

/-- The characters of a text in a style, line by line. -/
def body (s : Style) : List Char → List Char
  | [] => []
  | '\r' :: '\n' :: rest => s.closing ++ '\r' :: '\n' :: s.opening ++ s.body rest
  | c :: rest =>
    if c = '\n' then s.closing ++ c :: s.opening ++ s.body rest else c :: s.body rest

end Style

/-- Styles on a terminal; `coloured` says whether it has colours. -/
def Paint.terminal (coloured : Bool) : Paint := fun s text =>
  if coloured then String.ofList (s.opening ++ s.body text.toList ++ s.closing) else text

end WordLint
