import WordLint.Config.Rules

/-!
# Configuration files

The file of a project is told by its name. The configuration of a directory is its own file, or else the
file of a project when that has a table for this product; where it has neither, the directory above is
asked. A file of a project that cannot be read stops the search; a configuration file of its own is not
read by it.

The search knows the directories of the tree only. A start that leads out of the tree, for a while or for good, is
not followed, and nothing is found from it.
-/

namespace WordLint

namespace Config

/-- The path of a file cannot be handed to the system: a character of it ends every text there. -/
def unspeakablePath : Breakdown :=
  ⟨"ValueError", "embedded null byte"⟩

section By

variable (read : Toml.Reader)

/-- The document in a file, for a reader of documents. -/
def documentBy (t : FileTree) (path : FilePath) : Except Fault Place :=
  match t.readText path with
  | .error .unspeakable => .error (.breakdown unspeakablePath)
  | .error e => .error (.unreadable (t.shown path) e)
  | .ok text =>
    match read text with
    | .ok entries => .ok (.root (.dict entries))
    | .error .malformed => .error (.malformedFile (t.shown path))
    | .error (.breakdown b) => .error (.breakdown b)

/-- The rules in a file, for a reader of documents. -/
def rulesOfFileBy (t : FileTree) (path : FilePath) : Recorded Step Fault Place := do
  let found ← Recorded.ofExcept id (documentBy read t path)
  rules (path.getLast? == some projectFileName) found

/-- The configuration of one directory, for a reader of documents. -/
def inDirectoryBy (t : FileTree) (directory : FilePath) : Except Fault (Option FilePath) := do
  let own := directory ++ [configFileName]
  let project := directory ++ [projectFileName]
  if t.isFile own then return some own
  if !t.isFile project then return none
  let tools := (← documentBy read t project).table toolKey
  return if (tools.get? productKey).isSome then some project else none

/-- The first configuration in some directories, for a reader of documents. -/
def firstInBy (t : FileTree) : List FilePath → Except Fault (Option FilePath)
  | [] => .ok none
  | directory :: rest => do
    match ← inDirectoryBy read t directory with
    | some found => return some found
    | none => firstInBy t rest

/-- A directory and all directories above it, innermost first. -/
def upwards (directory : FilePath) : List FilePath :=
  (List.range (directory.length + 1)).map fun up => directory.take (directory.length - up)

/-- The nearest configuration at or above a path of the tree, for a reader of documents; outside of the
tree there is none. -/
def findBy (t : FileTree) (start : FilePath) : Except Fault (Option FilePath) :=
  if start.unspeakable then .error (.breakdown unspeakablePath)
  else match FileTree.resolve? start with
  | some path => firstInBy read t (upwards (if t.isFile path then path.dropLast else path))
  | none => .ok none

end By

/-- The document in a file. -/
def document (t : FileTree) (path : FilePath) : Except Fault Place :=
  documentBy Toml.read t path

/-- The rules in a file. -/
def rulesOfFile (t : FileTree) (path : FilePath) : Recorded Step Fault Place :=
  rulesOfFileBy Toml.read t path

/-- The nearest configuration at or above a path of the tree. -/
def find (t : FileTree) (start : FilePath) : Except Fault (Option FilePath) :=
  findBy Toml.read t start

end Config

/-- Why a file cannot be checked. -/
inductive CheckError where
  | config (f : Config.Fault)
  | file (e : FileError)
  | lint (e : LintError)
deriving Repr, DecidableEq

/-- Run the rules in the text of a configuration over a document. -/
def lintWithText (html text : String) (project : Bool) : Recorded Step CheckError Unit := do
  let rules ← (Config.rulesOfText text project).mapError .config
  (lintText html rules.entries).mapError .lint

/-- Run the rules of a configuration file over a file; without a configuration there are no rules. -/
def lintFile (t : FileTree) (path : FilePath) (config : Option FilePath) :
    Recorded Step CheckError Unit := do
  let rules ← match config with
    | some c => (Config.rulesOfFile t c).mapError .config
    | none => pure (.root (.dict []))
  let html ← Recorded.ofExcept .file (t.readText path)
  (lintText html rules.entries).mapError .lint

end WordLint
