import WordLint.File.Tree
import WordLint.Text.Blank
import WordLint.Text.Cut
import WordLint.Text.Numeral
import WordLint.Toml.Pass
import WordLint.Value.Display

/-!
# Supported versions

The file of a project lists classifiers, and those of one family name the versions of the interpreter
that the project supports: two numbers with a point between them, blanks at the ends aside. The
supported versions are all that are named, in ascending order. When none is named it is the current
one; when there are no classifiers at all, a warning says so.
-/

namespace WordLint

/-- A version. -/
structure Version where
  major : Nat
  minor : Nat
deriving Repr, DecidableEq

namespace Version

/-- The version of the interpreter that is running. -/
def current : Version := ⟨3, 11⟩

/-- A version as text. -/
def text (v : Version) : String :=
  s!"{v.major}.{v.minor}"

/-- One version comes before another. -/
def before (a b : Version) : Bool :=
  a.major < b.major || (a.major == b.major && a.minor < b.minor)

/-- Put a version in its place among versions in ascending order, unless it is there. -/
def insert (v : Version) : List Version → List Version
  | [] => [v]
  | w :: rest =>
    if v = w then w :: rest
    else if v.before w then v :: w :: rest
    else w :: insert v rest

end Version

namespace Automation

/-- Why the supported versions cannot be told. -/
inductive VersionError where
  | undecodable (f : Text.Utf8Failure)
  /-- A classifier is no text. -/
  | notText (typeName : String)
  /-- A part of a version has only digit signs and is no numeral. -/
  | numeral (e : Text.NumeralError)
  /-- The reader of documents breaks down over the file. -/
  | breakdown (b : Breakdown)
deriving Repr, DecidableEq

/-- The wording of an error. -/
def VersionError.message : VersionError → String
  | .undecodable f => (FileError.undecodable f).message
  | .notText typeName => s!"'{typeName}' object has no attribute 'startswith'"
  | .numeral e => e.message
  | .breakdown b => b.message

/-! ## Classifiers -/

/-- The classifiers of a project, and whether they are values of a list. -/
structure Classifiers where
  values : Bool
  items : List Value

/-- The table of the project. -/
def projectKey : String := "project"

/-- The list of classifiers in it. -/
def classifiersKey : String := "classifiers"

/-- The classifiers in the value of a key. -/
def ofValue? : Value → Option Classifiers
  | .list items => some ⟨true, items⟩
  | _ => none

/-- The classifiers that a key stands for. -/
def ofItem? : Toml.Item → Option Classifiers
  | .value v => ofValue? v
  | .tables done last => some ⟨false, Toml.toDicts (done ++ [last])⟩
  | .table .. => none

/-- The classifiers of a document, when it has a list of them. -/
def classifiers? (entries : Toml.Entries) : Option Classifiers := do
  match ← entries.lookup projectKey with
  | .table _ inner => ofItem? (← inner.lookup classifiersKey)
  | .value (.dict es) => ofValue? (← Value.lookup? classifiersKey es)
  | _ => none

/-- The name of the type of a classifier that is no text. -/
def Classifiers.typeName (c : Classifiers) (item : Value) : String :=
  match item with
  | .dict _ => if c.values then "DynamicInlineTableDict" else item.typeName
  | _ => item.typeName

/-! ## Versions -/

/-- The classifiers that name versions begin with this. -/
def family : List Char := "Programming Language :: Python :: ".toList

/-- A part of a version: digit signs only. -/
def isVersionPart (part : List Char) : Bool :=
  !part.isEmpty && part.all Text.isDigitSign

/-- The number that a part of a version denotes. -/
def partNumber (part : List Char) : Except VersionError Nat :=
  match Text.readInt part with
  | .ok n => .ok n.toNat
  | .error e => .error (.numeral e)

/-- The version that a classifier names, if it does. -/
def versionOf (classifier : List Char) : Except VersionError (Option Version) := do
  if !family.isPrefixOf classifier then return none
  match Text.cutAt '.' (Text.trim (classifier.drop family.length)) with
  | [major, minor] =>
    if isVersionPart major && isVersionPart minor then
      return some ⟨← partNumber major, ← partNumber minor⟩
    else return none
  | _ => return none

/-- The versions that some classifiers name, in ascending order, together with those found before. -/
def versionsOf (c : Classifiers) (found : List Version) : List Value → Except VersionError (List Version)
  | [] => .ok found
  | .str s :: rest => do
    match ← versionOf s.toList with
    | some v => versionsOf c (v.insert found) rest
    | none => versionsOf c found rest
  | item :: _ => .error (.notText (c.typeName item))

/-- Supported versions, and a warning perhaps. -/
structure Support where
  versions : List Version
  warning : Option String
deriving Repr, DecidableEq

/-- The warning that there are no classifiers. -/
def noClassifiers : String :=
  s!"Could not find 'classifiers' in pyproject.toml. Falling back to Python {Version.current.text}."

section By

variable (read : Toml.TableReader)

/-- The document in a file, for a reader of documents; a file that is missing or no document counts as an
empty one. -/
def documentOfBy (file : Option (List Nat)) : Except VersionError Toml.Entries :=
  match file with
  | none => .ok []
  | some bytes => do
    let text ← (Text.decode bytes).mapError .undecodable
    match read (String.ofList (Text.unifyBreaks text)) with
    | .ok entries => return entries
    | .error .malformed => return []
    | .error (.breakdown b) => throw (.breakdown b)

/-- The versions that the file of a project supports, for a reader of documents. -/
def supportBy (file : Option (List Nat)) : Except VersionError Support := do
  match classifiers? (← documentOfBy read file) with
  | none => return ⟨[.current], some noClassifiers⟩
  | some c =>
    match ← versionsOf c [] c.items with
    | [] => return ⟨[.current], none⟩
    | versions => return ⟨versions, none⟩

end By

/-- The versions that the file of a project supports. -/
def support (file : Option (List Nat)) : Except VersionError Support :=
  supportBy Toml.readTables file

end Automation

end WordLint
