import WordLint.Text.Digit
import WordLint.Text.LetterCase
import WordLint.Text.Numeral

/-!
# Levels

A level says how much a record of the trace matters; a greater level matters more. Six levels have names
of their own. A level is asked for in a setting by a name or by a number, case and blanks at the
ends aside; other texts ask for none.
-/

namespace WordLint

/-- A level. -/
abbrev Level := Int

namespace Level

/-- No level: everything passes. -/
def unset : Level := 0

/-- Every single finding. -/
def trace : Level := 5

/-- Decisions on the way. -/
def debug : Level := 10

/-- Results. -/
def info : Level := 20

/-- Something is left out of account. -/
def warning : Level := 30

/-- Something went wrong. -/
def error : Level := 40

/-- Nothing can go on. -/
def critical : Level := 50

/-- The levels with names, under the names that records show. -/
def names : List (String × Level) :=
  [("TRACE", trace), ("DEBUG", debug), ("INFO", info), ("WARNING", warning), ("ERROR", error),
    ("CRITICAL", critical), ("NOTSET", unset)]

/-- Further names under which a level can be asked for. -/
def otherNames : List (String × Level) :=
  [("WARN", warning), ("FATAL", critical)]

/-- The name that records of a level show. -/
def name (level : Level) : String :=
  match names.find? (·.2 = level) with
  | some found => found.1
  | none => s!"Level {level}"

/-- The level with a name. -/
def ofName? (name : String) : Option Level :=
  (names ++ otherNames).lookup name

/-- The level that a setting asks for, if it does; an empty setting counts as one that is missing. A text
of digit signs is read as a numeral. -/
def ofSetting (setting : Option String) : Except Text.NumeralError (Option Level) :=
  match setting with
  | none => .ok none
  | some text =>
    let wanted := Text.upper (Text.trim text.toList)
    if !wanted.isEmpty && wanted.all Text.isDigitSign then (Text.readInt wanted).map some
    else .ok (ofName? (String.ofList wanted))

/-- The level that a trace starts at: the one that is given, or else the one that the setting asks for,
where zero counts as none, or else the most severe one. -/
def start (given : Option Level) (setting : Option String) : Except Text.NumeralError Level :=
  match given with
  | some level => .ok level
  | none => do
    match ← ofSetting setting with
    | some level => return if level = unset then critical else level
    | none => return critical

end Level

end WordLint
