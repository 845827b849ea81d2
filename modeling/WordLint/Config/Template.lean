import WordLint.Config.Rules
import WordLint.Toml.Written

/-!
# A configuration to start with

A configuration file that switches some rules on: each rule has a table with its options, below a
comment with its description. The file is put together as a draft, and a writer of documents spells it out.
-/

namespace WordLint

/-- A rule as it is entered into a configuration file. -/
structure RuleEntry where
  id : String
  description : String
  options : Value

/-- A rule of the catalogue with the options it has by default. -/
def Rule.entry (r : Rule) : RuleEntry :=
  ⟨r.id, r.description, .options r.schema.defaults⟩

namespace Config

/-- The draft of a configuration file for some rules. -/
def draft (rules : List RuleEntry) : Toml.Draft where
  comments := ["BlockWords configuration", "Set a rule to `false` to disable it."]
  parent := rulesKey
  tables := rules.map fun r => ⟨r.id, r.description, r.options.asEntries⟩

/-- A configuration file for some rules, for a writer of documents. -/
def templateBy (write : Toml.Writer) (rules : List RuleEntry) : Except Toml.WriteProblem String :=
  write (draft rules)

/-- A configuration file for some rules. -/
def template (rules : List RuleEntry) : Except Toml.WriteProblem String :=
  templateBy Toml.write rules

end Config

end WordLint
