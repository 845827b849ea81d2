import WordLint.Config.Names
import WordLint.File.Tree
import WordLint.Lint.Session
import WordLint.Toml.Pass
import WordLint.Value.Place

/-!
# The rules of a configuration

A configuration maps the names of rules to their options in a table `rules`. In the file of a project
that table is inside the table of this product, which is inside the table of tools. A table that is
missing has no entries; something else in the place of the rules is reported and left out of account.

A text is read as a document by a reader of documents. What the reader says of a text that is no document
is passed on as a fault of the configuration, and where it breaks down, so does what asked for the rules.
-/

namespace WordLint

/-- The table under a key; where there is none, an empty one. -/
def Place.table (p : Place) (key : String) : Place :=
  match p.dictionary.get? key with
  | some found =>
    match found.value with
    | .dict _ => found
    | _ => .root (.dict [])
  | none => .root (.dict [])

namespace Config

/-- The table of tools in the file of a project. -/
def toolKey : String := "tool"

/-- The table of this product among the tools. -/
def productKey : String := "blockwords"

/-- The table of the rules. -/
def rulesKey : String := "rules"

/-- The table of a document that the rules are in. -/
def holder (project : Bool) (document : Place) : Place :=
  if project then (document.table toolKey).table productKey else document

/-- The rules of a document. -/
def rules {ε : Type} (project : Bool) (document : Place) : Recorded Step ε Place :=
  match (holder project document).dictionary.get? rulesKey with
  | none => pure (.root (.dict []))
  | some found =>
    match found.value with
    | .dict _ => pure found
    | .none => pure (.root (.dict []))
    | _ => do
      .note (.rulesIgnored found.detach)
      return .root (.dict [])

/-- Why the rules of a configuration cannot be had. -/
inductive Fault where
  /-- A text is no document. -/
  | malformed
  /-- The text of a file is no document. -/
  | malformedFile (path : String)
  /-- A file cannot be read. -/
  | unreadable (path : String) (e : FileError)
  /-- An error that is not taken for a fault of the configuration, and goes on as it is. -/
  | breakdown (b : Breakdown)
deriving Repr, DecidableEq

/-- The wording of a fault. -/
def Fault.message : Fault → String
  | .malformed => "Invalid TOML"
  | .malformedFile path => s!"Invalid TOML in {path}"
  | .unreadable path e => s!"Cannot read configuration file {path}: {e.message}"
  | .breakdown b => b.message

/-- The rules in the text of a configuration, for a reader of documents. -/
def rulesOfTextBy (read : Toml.Reader) (text : String) (project : Bool) : Recorded Step Fault Place :=
  match read text with
  | .ok entries => rules project (.root (.dict entries))
  | .error .malformed => .fail .malformed
  | .error (.breakdown b) => .fail (.breakdown b)

/-- The rules in the text of a configuration. -/
def rulesOfText (text : String) (project : Bool) : Recorded Step Fault Place :=
  rulesOfTextBy Toml.read text project

end Config

end WordLint
