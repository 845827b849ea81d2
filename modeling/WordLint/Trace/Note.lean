import WordLint.Config.Names
import WordLint.Lint.Step
import WordLint.Pattern.Cache
import WordLint.Trace.Level
import WordLint.Value.Display

/-!
# The trace of a run

Each step of a run leaves a note, which has a level. A pattern that is asked for leaves one only when it
has to be read, that is, when it is not remembered from before. A step that shows a number with too many
digits leaves none.
-/

namespace WordLint

/-- A note in the trace. -/
structure Note where
  level : Level
  text : String
deriving Repr, DecidableEq

namespace Note

/-- A note with a shown value in it. -/
def showing (level : Level) (v : Value) (text : String → String) : Option Note :=
  match v.display with
  | .ok shown => some ⟨level, text shown⟩
  | .error _ => none

/-- Names in a list, each in quotes. -/
def namesText (names : List String) : String :=
  "[" ++ commaSeparated (names.map Text.quoted) ++ "]"

/-- The note about an objection to the options of a rule. -/
def ofObjection (rule : String) : Objection → Option Note
  | .notMapping type =>
    some ⟨.debug, s!"Options for {rule} are not a mapping: <class '{type}'>"⟩
  | .unknownKey key => showing .debug key fun k => s!"Unknown option key for {rule}: {k}"
  | .notStrings key =>
    showing .debug key fun k => s!"Option {k} for {rule} is not a list of strings"

/-- The note about a diagnostic. -/
def ofDiagnostic (d : Diagnostic) : Note :=
  ⟨.trace, s!"Adding [{d.severity.name}] {d.line}:{d.col}: {Text.quoted d.message}"⟩

/-- The note about a pattern that has to be read. -/
def ofPattern (raw : String) : Note :=
  ⟨.trace, s!"Compiling blocked pattern {Text.quoted (Text.lower raw)}"⟩

/-- The note of a step, patterns aside. -/
def ofStep : Step → Option Note
  | .linting n =>
    some ⟨.debug, s!"Linting {n} characters with BlockWords {productVersion true}"⟩
  | .disabled rule => some ⟨.debug, s!"Rule {rule} disabled by configuration"⟩
  | .initializing rule => some ⟨.debug, s!"Initializing rule {rule}"⟩
  | .unset rule => some ⟨.debug, s!"{rule}: no options given, rule stays inactive"⟩
  | .objection rule o => ofObjection rule o
  | .refused rule => some ⟨.debug, s!"{rule}: invalid options, rule stays inactive"⟩
  | .listening rule groups =>
    some ⟨.debug, s!"{rule}: listening with groups {namesText (groups.map Group.key)}"⟩
  | .reading n lines => some ⟨.debug, s!"Parsing {n} characters ({lines} lines)"⟩
  | .event e => some ⟨.trace, s!"Event {e.kind.name} at {e.line}:{e.col}: {Text.quoted e.raw}"⟩
  | .pattern _ => none
  | .finding rule e message => some ⟨.trace, s!"{rule} at {e.line}:{e.col}: {message}"⟩
  | .reported d => some (ofDiagnostic d)
  | .finished n => some ⟨.info, s!"Lint finished with {n} diagnostic(s)"⟩
  | .rulesIgnored v =>
    showing .warning v fun shown => s!"Ignoring [rules]: expected a table, got {shown}"

end Note

/-- The notes of some steps, given the patterns that are remembered. -/
def notesFrom (cache : PatternCache) : List Step → List Note
  | [] => []
  | .pattern raw :: rest =>
    let note := if (cache.find? raw).isNone then [Note.ofPattern raw] else []
    note ++ notesFrom (cache.compile raw).2 rest
  | step :: rest => (Note.ofStep step).toList ++ notesFrom cache rest

/-- The notes of some steps that pass a level; no pattern is remembered before them. -/
def notes (level : Level) (steps : List Step) : List Note :=
  (notesFrom [] steps).filter (level ≤ ·.level)

end WordLint
