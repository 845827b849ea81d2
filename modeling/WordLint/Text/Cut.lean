/-!
# Cutting texts

A text cut at a mark: the pieces between the marks, of which there is one more than there are marks.
-/

namespace WordLint.Text

/-- Put a character in front of the first of some pieces. -/
def consFirst (c : Char) : List (List Char) → List (List Char)
  | [] => [[c]]
  | piece :: rest => (c :: piece) :: rest

/-- A text cut at a mark. -/
def cutAt (mark : Char) : List Char → List (List Char)
  | [] => [[]]
  | c :: rest => if c = mark then [] :: cutAt mark rest else consFirst c (cutAt mark rest)

end WordLint.Text
