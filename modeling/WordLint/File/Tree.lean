import WordLint.Text.Cut
import WordLint.Text.Quoted
import WordLint.Text.Utf8

/-!
# Trees of files

A tree holds files and directories under a root, at paths that are lists of names. What is above a file
or directory is a directory too. Reading follows a path name by name; `..` leads one directory up.

What a file system refuses beyond that is not told: names and paths may have any length here, while a system
refuses long ones, and there are no links and no files that may not be read.
-/

namespace WordLint

/-- The names on the way to a file or directory, from the root of a tree. -/
abbrev FilePath := List String

/-- The path that a text with slashes stands for. -/
def FilePath.ofText (text : String) : FilePath :=
  ((Text.cutAt '/' text.toList).map String.ofList).filter fun name => name ≠ "" && name ≠ "."

/-- A path as text. -/
def FilePath.text (path : FilePath) : String :=
  String.intercalate "/" path

/-- A path with the character that ends every text that is handed to the system: nothing can be there. -/
def FilePath.unspeakable (path : FilePath) : Bool :=
  path.any fun name => name.toList.contains '\x00'

/-- What is at a path. -/
inductive FileEntry where
  | file (bytes : List Nat)
  | directory
deriving Repr, DecidableEq

/-- A tree of files. -/
structure FileTree where
  /-- What the root is called in messages. -/
  root : String
  files : List (FilePath × List Nat)
  /-- The directories that are not only there because something is in them. -/
  directories : List FilePath

/-- Why a file cannot be read. -/
inductive FileError where
  | missing (path : String)
  | notDirectory (path : String)
  | isDirectory (path : String)
  /-- The system cannot be asked for the path. -/
  | unspeakable
  /-- The bytes of the file are no text. -/
  | undecodable (f : Text.Utf8Failure)
deriving Repr, DecidableEq

namespace FileError

/-- The wording of a failure of the system, with its number. -/
def systemMessage (number : Nat) (reason path : String) : String :=
  s!"[Errno {number}] {reason}: {Text.quoted path}"

/-- The bytes that cannot be read, and where they are. -/
def undecodablePlace (f : Text.Utf8Failure) : String :=
  if f.count = 1 then s!"byte 0x{String.ofList (Text.hex 2 f.byte)} in position {f.position}"
  else s!"bytes in position {f.position}-{f.position + f.count - 1}"

/-- The wording of an error. -/
def message : FileError → String
  | .missing path => systemMessage 2 "No such file or directory" path
  | .notDirectory path => systemMessage 20 "Not a directory" path
  | .isDirectory path => systemMessage 21 "Is a directory" path
  | .unspeakable => "embedded null byte"
  | .undecodable f =>
    s!"'utf-8' codec can't decode {undecodablePlace f}: {f.problem.message}"

end FileError

namespace FileTree

/-- What is at a path. -/
def entry? (t : FileTree) (path : FilePath) : Option FileEntry :=
  match t.files.lookup path with
  | some bytes => some (.file bytes)
  | none =>
    if path.isEmpty || t.directories.any path.isPrefixOf || t.files.any (path.isPrefixOf ·.1) then
      some .directory
    else none

/-- The path as it is shown in messages. -/
def shown (t : FileTree) (path : FilePath) : String :=
  String.intercalate "/" (t.root :: path)

/-- The directory above; none is above the root of the tree. -/
def parent? (directory : FilePath) : Option FilePath :=
  if directory.isEmpty then none else some directory.dropLast

/-- What is at the end of a path that starts in a directory, or, without one, outside of the tree, where
nothing is known but that there are directories above; `whole` is the path as it is shown. -/
def walk (t : FileTree) (whole : String) : Option FilePath → FilePath → Except FileError FileEntry
  | none, [] => .ok .directory
  | none, name :: rest => if name = ".." then t.walk whole none rest else .error (.missing whole)
  | some directory, [] =>
    match t.entry? directory with
    | some e => .ok e
    | none => .error (.missing whole)
  | some directory, name :: rest =>
    match t.entry? directory with
    | some .directory =>
      t.walk whole (if name = ".." then parent? directory else some (directory ++ [name])) rest
    | some (.file _) => .error (.notDirectory whole)
    | none => .error (.missing whole)

/-- The text of a file, with single line feeds as line breaks. -/
def readText (t : FileTree) (path : FilePath) : Except FileError String := do
  if path.unspeakable then .error .unspeakable
  match ← t.walk (t.shown path) (some []) path with
  | .directory => .error (.isDirectory (t.shown path))
  | .file bytes =>
    let text ← (Text.decode bytes).mapError .undecodable
    return String.ofList (Text.unifyBreaks text)

/-- There is a file at a path. -/
def isFile (t : FileTree) (path : FilePath) : Bool :=
  match t.entry? path with
  | some (.file _) => true
  | _ => false

/-- The path without steps upwards; none when it leaves the tree, be it to come back. -/
def resolve? (path : FilePath) : Option FilePath :=
  path.foldlM (fun done name => if name = ".." then parent? done else some (done ++ [name])) []

end FileTree

end WordLint
