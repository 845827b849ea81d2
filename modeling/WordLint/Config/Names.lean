/-!
# Names and numbers of the product

What the outside world knows the product by: its version, the names of the files that it reads, and the
variable that sets its log level.
-/

namespace WordLint

/-- The version of the product. A copy that is not installed does not know its version. -/
def productVersion (installed : Bool) : String :=
  if installed then "0.1.0" else "0.0.0"

/-- The file that holds nothing but the configuration. -/
def configFileName : String := "blockwords.toml"

/-- The file of a project that may hold the configuration in a table of its own. -/
def projectFileName : String := "pyproject.toml"

/-- The variable that sets the log level. -/
def levelVariable : String := "BLOCKWORDS_LOG_LEVEL"

/-- The line of diagnostics that belong to no place in a document. -/
def noPlaceLine : Int := 1

/-- The column of diagnostics that belong to no place in a document. -/
def noPlaceCol : Int := 1

end WordLint
