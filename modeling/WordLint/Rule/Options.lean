/-!
# The patterns of a rule

Patterns come in five groups, one for each part of the markup that they are looked for in. A group may
be absent, which is not the same as empty: an absent group is not listed again when the options are
written.
-/

namespace WordLint

/-- The groups of patterns, in the order in which they are listed. -/
inductive Group where
  | all
  | attributeNames
  | attributeValues
  | tagNames
  | text
deriving Repr, DecidableEq

/-- All groups, in order. -/
def Group.list : List Group :=
  [.all, .attributeNames, .attributeValues, .tagNames, .text]

/-- The key of a group in a configuration. -/
def Group.key : Group → String
  | .all => "all"
  | .attributeNames => "attributeNames"
  | .attributeValues => "attributeValues"
  | .tagNames => "tagNames"
  | .text => "text"

/-- The name of a group where options are shown as a record. -/
def Group.field : Group → String
  | .all => "all"
  | .attributeNames => "attribute_names"
  | .attributeValues => "attribute_values"
  | .tagNames => "tag_names"
  | .text => "text"

/-- The patterns of a rule, by group. -/
structure Options where
  all : Option (List String)
  attributeNames : Option (List String)
  attributeValues : Option (List String)
  tagNames : Option (List String)
  text : Option (List String)
deriving Repr, DecidableEq

namespace Options

/-- The patterns of a group. -/
def get (o : Options) : Group → Option (List String)
  | .all => o.all
  | .attributeNames => o.attributeNames
  | .attributeValues => o.attributeValues
  | .tagNames => o.tagNames
  | .text => o.text

/-- The options with these patterns in each group. -/
def ofGroups (patterns : Group → Option (List String)) : Options :=
  { all := patterns .all, attributeNames := patterns .attributeNames,
    attributeValues := patterns .attributeValues, tagNames := patterns .tagNames,
    text := patterns .text }

/-- No group at all. -/
def absent : Options := ofGroups fun _ => none

/-- Every group, without patterns. -/
def blank : Options := ofGroups fun _ => some []

/-- The groups that are there, with their patterns, in order. -/
def groups (o : Options) : List (Group × List String) :=
  Group.list.filterMap fun g => (o.get g).map (g, ·)

end Options

end WordLint
