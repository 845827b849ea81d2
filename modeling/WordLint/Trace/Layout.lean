import WordLint.Text.Letter
import WordLint.Trace.Colour
import WordLint.Trace.Level
import WordLint.Trace.Placeholder

/-!
# Records on the terminal

A record is laid out by a text whose placeholders name its parts, in the style of its level. A layout
has to name one part at least. What is shown are the records from a level on; from the level of results
on the layout is short, and below it says where a record comes from.
-/

namespace WordLint

/-- A record of the trace. -/
structure LogRecord where
  level : Level
  /-- The text, with placeholders when there are arguments. -/
  text : String
  arguments : List Value
  /-- Who keeps the record. -/
  source : String
  path : String
  line : Nat
  function : String

/-- Why a record cannot be laid out. -/
inductive LayoutProblem where
  /-- The layout names no part. -/
  | noPart (layout : String)
  /-- The layout names a part that records do not have. -/
  | noSuchPart (name : String)
  | fill (p : FillProblem)
deriving Repr, DecidableEq

/-- The wording of a problem. -/
def LayoutProblem.message : LayoutProblem → String
  | .noPart layout => s!"Invalid format '{layout}' for '%' style"
  | .noSuchPart name => s!"Formatting field not found in record: {Text.quoted name}"
  | .fill p => p.message

namespace LogRecord

/-- The mapping that the arguments are taken from by name: the only argument, when it is a mapping with
entries. -/
def mapping? (r : LogRecord) : Option Value :=
  match r.arguments with
  | [v] => if v.truthy && v.entries?.isSome then some v else none
  | _ => none

/-- What the placeholders of the text take their values from. -/
def supply (r : LogRecord) : Supply :=
  match r.mapping? with
  | some v => .named v
  | none => .listed r.arguments

/-- The text with its arguments filled in. -/
def message (r : LogRecord) : Except FillProblem String :=
  if r.arguments.isEmpty then .ok r.text else fillIn r.text r.supply

/-- The last name of the path. -/
def fileName (r : LogRecord) : String :=
  String.ofList (r.path.toList.reverse.takeWhile (· ≠ '/')).reverse

/-- The last name of the path without its ending. -/
def moduleName (r : LogRecord) : String :=
  let reversed := r.fileName.toList.reverse
  let ending := reversed.takeWhile (· ≠ '.')
  if ending.length + 1 < reversed.length then String.ofList (reversed.drop (ending.length + 1)).reverse
  else r.fileName

/-- The parts of a record by name. -/
def parts (r : LogRecord) (message : String) : List (String × Value) := [
  ("name", .str r.source), ("msg", .str r.text),
  ("args", r.mapping?.getD (.tuple r.arguments)),
  ("levelname", .str r.level.name), ("levelno", .int r.level), ("pathname", .str r.path),
  ("filename", .str r.fileName), ("module", .str r.moduleName), ("exc_info", .none),
  ("exc_text", .none), ("stack_info", .none), ("lineno", .int r.line),
  ("funcName", .str r.function), ("threadName", .str "MainThread"),
  ("processName", .str "MainProcess"), ("message", .str message)]

/-- The parts of a record as a mapping. -/
def partsMapping (r : LogRecord) (message : String) : Value :=
  .dict ((r.parts message).map fun part => (.str part.1, part.2))

/-- The style of a level. -/
def style (level : Level) : Style :=
  if Level.critical ≤ level then .brightRed
  else if Level.error ≤ level then .red
  else if Level.warning ≤ level then .yellow
  else if Level.info ≤ level then .green
  else if Level.debug ≤ level then .gray
  else if Level.trace ≤ level then .blue
  else .dimRed

end LogRecord

/-! ## Layouts -/

/-- The layout of results. -/
def shortLayout : String := "[%(levelname)s] %(message)s"

/-- The layout that says where a record comes from. -/
def longLayout : String := "[%(levelname)s] [%(filename)s:%(lineno)d] [%(funcName)s] %(message)s"

/-- What follows a star or digits at the front, or all where there are none. -/
def dropCount : List Char → List Char
  | '*' :: rest => rest
  | cs => cs.dropWhile Text.isDecimal

/-- What follows a precision at the front, or all where there is none. -/
def dropPrecision : List Char → List Char
  | '.' :: rest => if (dropCount rest).length < rest.length then dropCount rest else '.' :: rest
  | cs => cs

/-- Letters for the form of a part. -/
def formLetters : List Char := "diouxefgcrsa%".toList

/-- A placeholder behind a percent sign that names a part in letters, digits and underscores. -/
def namesPart : List Char → Bool
  | '(' :: cs =>
    let name := cs.takeWhile Text.isWord
    match cs.drop name.length with
    | ')' :: rest =>
      let counts := rest.dropWhile ['#', '0', '+', ' ', '-'].contains
      let letter := (dropPrecision (dropCount counts)).head?
      !name.isEmpty && letter.any fun c => formLetters.any (Text.sameLetter c)
    | _ => false
  | _ => false

/-- A layout names a part. -/
def hasPart : List Char → Bool
  | [] => false
  | c :: rest => (c = '%' && namesPart rest) || hasPart rest

/-- Lay a record out. An empty layout is the message. -/
def LogRecord.layOut (paint : Paint) (r : LogRecord) (layout : String) :
    Except LayoutProblem String := do
  let layout := if layout.isEmpty then "%(message)s" else layout
  if !hasPart layout.toList then throw (.noPart layout)
  let message ← r.message.mapError .fill
  match fillIn layout (.named (r.partsMapping message)) with
  | .ok text => return paint (style r.level) text
  | .error (.unknownName name) => throw (.noSuchPart name)
  | .error p => throw (.fill p)

/-! ## Output -/

/-- A record is shown by a trace that starts at a level. Records without a positive level never are. -/
def LogRecord.shownFrom (start : Level) (r : LogRecord) : Bool :=
  0 < r.level && start ≤ r.level

/-- The layout of a trace that starts at a level. -/
def layoutFrom (start : Level) : String :=
  if Level.info ≤ start then shortLayout else longLayout

end WordLint
