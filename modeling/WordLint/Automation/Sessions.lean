import WordLint.Automation.Versions
import WordLint.Lint.Recorded
import WordLint.Value.Display

/-!
# Sessions

A session is a chore of the project: what it installs and which commands it runs. A session asks for no
version of the interpreter, for one, or for every supported one. What it does is kept as a list of
calls; a session that is started without a proper version may stop before its end.
-/

namespace WordLint.Automation

/-- What a session does. -/
inductive Call where
  | log (text : String)
  | install (arguments : List String)
  | run (arguments : List String)
deriving Repr, DecidableEq

/-- Why a session stops. -/
inductive SessionError where
  /-- The version that it was started with is no text, or an empty one. -/
  | badVersion (shown : String)
deriving Repr, DecidableEq

/-- The wording of an error. -/
def SessionError.message : SessionError → String
  | .badVersion shown => s!"Unexpected session.python value: {shown}"

/-- The calls of a session. -/
abbrev Calls := Recorded Call SessionError Unit

/-- What a session is started with. -/
structure Start where
  /-- The version of the interpreter, which should be a text. -/
  version : Value
  /-- Further arguments for the tests. -/
  arguments : List String
  /-- The supported versions. -/
  supported : List String

/-- The versions of the interpreter that a session asks for. -/
inductive Interpreters where
  | any
  | one (version : String)
  | each (versions : List String)
deriving Repr, DecidableEq

/-- A session. -/
structure Session where
  name : String
  interpreters : Interpreters
  description : String
  calls : Start → Calls

/-- The directories with sources. -/
def sourceDirectories : List String := ["src/blockwords", "tests"]

/-- The versions that this project supports. -/
def supportedVersions : List String := ["3.10", "3.11", "3.12", "3.13"]

/-- Install a part of this project for development. -/
def installProject (extra : String) : Calls :=
  .note (.install ["-e", s!".[{extra}]"])

/-- Run a command. -/
def command (arguments : List String) : Calls :=
  .note (.run arguments)

/-- Check the types for the version that the session was started with. -/
def checkTypes (version : Value) : Calls :=
  match version with
  | .str (text : String) =>
    if text.isEmpty then .fail (.badVersion (Text.quoted text))
    else command ["pyright", "--pythonversion", text]
  | v =>
    match v.display with
    | .ok shown => .fail (.badVersion shown)
    | .error e => .fail (.badVersion e.message)

/-! ## The sessions -/

/-- Tests and types, for every supported version. -/
def qualitySession : Session where
  name := "qa"
  interpreters := .each supportedVersions
  description := "Run tests + pyright (per Python version)."
  calls start := do
    .note (.log ("Supported Python versions: " ++ commaSeparated start.supported))
    installProject "dev"
    command (["pytest", "-q", "tests", "-m", "not hypothesis_slow"] ++ start.arguments)
    checkTypes start.version

/-- The long tests. -/
def propertySession : Session where
  name := "property_test"
  interpreters := .one Version.current.text
  description := "Run the Hypothesis suites with the ``thorough`` profile."
  calls start := do
    installProject "test"
    command (["pytest", "-vv", "tests", "--hypothesis-profile", "thorough"] ++ start.arguments)

/-- Checks of the sources. -/
def lintSession : Session where
  name := "lint"
  interpreters := .any
  description := "Static analysis."
  calls _ := do
    installProject "dev"
    command ["ruff", "check", "."]
    command (["pydoclint", "-q"] ++ sourceDirectories)

/-- A check of the layout of the sources. -/
def formatCheckSession : Session where
  name := "format_check"
  interpreters := .any
  description := "Verify formatting."
  calls _ := do
    installProject "dev"
    command ["ruff", "format", "--check", "."]

/-- The layout of the sources. -/
def formatSession : Session where
  name := "format"
  interpreters := .any
  description := "Apply formatting."
  calls _ := do
    installProject "dev"
    command ["ruff", "format", "."]

/-- A package, built and checked. -/
def packageSession : Session where
  name := "package_check"
  interpreters := .one Version.current.text
  description := "Build sdist/wheel and validate distribution metadata (twine)."
  calls _ := do
    .note (.install ["build", "twine"])
    command ["python", "-c", "import shutil; shutil.rmtree('dist', ignore_errors=True)"]
    command ["python", "-m", "build", "--sdist", "--wheel"]
    command ["twine", "check", "dist/*"]

/-- All sessions. -/
def sessions : List Session :=
  [qualitySession, propertySession, lintSession, formatCheckSession, formatSession, packageSession]

/-- The sessions that run when none is asked for. -/
def defaultSessions : List String :=
  [lintSession.name, formatCheckSession.name]

/-- What makes the environments of sessions. -/
def environmentTool : String := "uv"

end WordLint.Automation
