import WordLint.Proofs.Lint.Runs
import WordLint.Proofs.Rule.Groups

/-!
# What each group finds

Every group of patterns is looked for in texts of its own: the markup of an event, the names of its
attributes, their values, its tag name, or its text (`Group.textsOf`). What a group finds in an event depends
on its own patterns only.

**The law** (`eventFindings_shares`): the findings of an event are the shares of the groups, in some order.
Where a single group is there, they are its share as it stands (`eventFindings_only`). A share in turn is made
up of what its patterns find one by one (`shareOf_patterns`), so the findings of any events are those of
all patterns taken alone (`findings_patterns`).

The orders in which groups and patterns take turns are not kept by these laws; they are those of
`eventFindings`.
-/

namespace WordLint

/-! ## Groups on their own -/

namespace Group

/-- The category that is named in the findings of a group. -/
def category : Group → Option Category
  | .all => none
  | .attributeNames | .attributeValues => some .attribute
  | .tagNames => some .tagName
  | .text => some .text

/-- The texts of an event that the patterns of a group are looked for in, in order. -/
def textsOf (g : Group) (e : Event) : List String :=
  match g with
  | .all => if e.kind ≠ .comment ∧ e.raw ≠ "" then [e.raw] else []
  | .attributeNames => if e.kind = .startTag ∧ e.raw ≠ "" then e.attributes.map (·.name) else []
  | .attributeValues => if e.kind = .startTag ∧ e.raw ≠ "" then e.attributes.map (·.value) else []
  | .tagNames => if e.kind = .startTag ∧ e.element.getD "" ≠ "" then [e.element.getD ""] else []
  | .text => if e.kind = .text ∧ e.raw ≠ "" then [e.raw] else []

end Group

namespace Options

/-- Options with patterns in one group, and without the others. -/
def only (g : Group) (patterns : List String) : Options :=
  .ofGroups fun g' => if g' = g then some patterns else none

theorem only_readable {patterns : List String} (g : Group) (h : WordLint.Readable patterns) :
    (only g patterns).Readable := by
  intro g' patterns' hget
  rw [only, get_ofGroups] at hget
  split at hget
  · cases hget
    exact h
  · cases hget

/-- The patterns of all groups, each with its group. -/
def patterns (o : Options) : List (Group × String) :=
  Group.list.flatMap fun g => ((o.get g).getD []).map (g, ·)

theorem mem_patterns {o : Options} {g : Group} {raw : String} :
    (g, raw) ∈ o.patterns ↔ ∃ patterns, o.get g = some patterns ∧ raw ∈ patterns := by
  unfold patterns
  rw [List.mem_flatMap]
  constructor
  · rintro ⟨g', _, hmem⟩
    obtain ⟨raw', hraw, heq⟩ := List.mem_map.mp hmem
    cases heq
    cases hget : o.get g with
    | none => simp [hget] at hraw
    | some patterns => exact ⟨patterns, rfl, by simpa [hget] using hraw⟩
  · rintro ⟨patterns, hget, hraw⟩
    exact ⟨g, g.mem_list, List.mem_map.mpr ⟨raw, by simpa [hget] using hraw, rfl⟩⟩

/-- All patterns can be read, one by one. -/
theorem readable_iff {o : Options} :
    o.Readable ↔ ∀ x ∈ o.patterns, ∃ p, Pattern.compile x.2 = .ok p := by
  unfold Readable WordLint.Readable
  constructor
  · rintro h ⟨g, raw⟩ hx
    obtain ⟨patterns, hget, hraw⟩ := mem_patterns.mp hx
    exact h g patterns hget raw hraw
  · intro h g patterns hget raw hraw
    exact h (g, raw) (mem_patterns.mpr ⟨patterns, hget, hraw⟩)

end Options

/-- What a group of patterns finds in an event. -/
def shareOf (rule : String) (e : Event) (g : Group) (patterns : List String) : Log :=
  (g.textsOf e).flatMap (groupFindings rule e g.category (some patterns))

/-! ## The parts of an event -/

theorem flatMap_ite_singleton {α β : Type} (c : Prop) [Decidable c] (a : α) (f : α → List β) :
    (if c then [a] else []).flatMap f = if c then f a else [] := by
  split
  · exact List.flatMap_singleton f a
  · rfl

/-- A group that is absent finds as much as one without patterns. -/
theorem groupFindings_getD (rule : String) (e : Event) (category : Option Category)
    (group : Option (List String)) (text : String) :
    groupFindings rule e category (some (group.getD [])) text =
      groupFindings rule e category group text := by
  cases group <;> rfl

/-- A group without patterns finds nothing. -/
theorem shareOf_nil (rule : String) (e : Event) (g : Group) : shareOf rule e g [] = [] :=
  List.flatMap_eq_nil_iff.mpr fun _ _ => rfl

/-- What is found in the attributes of an event, each value before its name. -/
def attributeFindings (rule : String) (o : Options) (e : Event) : Log :=
  if e.kind = .startTag ∧ e.raw ≠ "" then
    e.attributes.flatMap fun a =>
      groupFindings rule e (some .attribute) o.attributeValues a.value ++
        groupFindings rule e (some .attribute) o.attributeNames a.name
  else []

/-- The findings of an event: the shares of three groups, and the attributes in which two groups take
turns. -/
theorem eventFindings_parts (rule : String) (o : Options) (e : Event) :
    eventFindings rule o e =
      shareOf rule e .tagNames (o.tagNames.getD []) ++ shareOf rule e .text (o.text.getD []) ++
        attributeFindings rule o e ++ shareOf rule e .all (o.all.getD []) := by
  unfold eventFindings shareOf attributeFindings Group.textsOf Group.category
  simp only [flatMap_ite_singleton, groupFindings_getD]
  by_cases hcomment : e.kind = .comment
  · simp [hcomment]
  · simp [hcomment]

/-- The two groups that take turns in the attributes of an event find their shares there. -/
theorem attributeFindings_perm (rule : String) (o : Options) (e : Event) :
    (attributeFindings rule o e).Perm
      (shareOf rule e .attributeValues (o.attributeValues.getD []) ++
        shareOf rule e .attributeNames (o.attributeNames.getD [])) := by
  unfold attributeFindings shareOf Group.textsOf Group.category
  simp only [funext (groupFindings_getD rule e (some .attribute) _)]
  split
  · rw [List.flatMap_map, List.flatMap_map]
    exact (List.flatMap_append_perm e.attributes _ _).symm
  · exact .refl _

/-- Without values to look for, the attributes of an event have the share of the names. -/
theorem attributeFindings_names (rule : String) {o : Options} (e : Event) (h : o.attributeValues = none) :
    attributeFindings rule o e = shareOf rule e .attributeNames (o.attributeNames.getD []) := by
  unfold attributeFindings shareOf Group.textsOf Group.category
  simp only [funext (groupFindings_getD rule e (some .attribute) _), h]
  split
  · rw [List.flatMap_map]
    rfl
  · rfl

/-- Without names to look for, the attributes of an event have the share of the values. -/
theorem attributeFindings_values (rule : String) {o : Options} (e : Event) (h : o.attributeNames = none) :
    attributeFindings rule o e = shareOf rule e .attributeValues (o.attributeValues.getD []) := by
  unfold attributeFindings shareOf Group.textsOf Group.category
  simp only [funext (groupFindings_getD rule e (some .attribute) _), h]
  split
  · rw [List.flatMap_map]
    exact List.flatMap_congr fun a _ => List.append_nil _
  · rfl

/-- **The findings of an event are the shares of the groups**, in some order. -/
theorem eventFindings_shares (rule : String) (o : Options) (e : Event) :
    (eventFindings rule o e).Perm
      (Group.list.flatMap fun g => shareOf rule e g ((o.get g).getD [])) := by
  rw [eventFindings_parts]
  refine (((attributeFindings_perm rule o e).append_left _).append_right _).trans ?_
  simp only [Group.list, List.flatMap_cons, List.flatMap_nil, List.append_nil, Options.get]
  rw [← Multiset.coe_eq_coe]
  simp only [← Multiset.coe_add]
  abel

/-- Where a single group is there, an event has its share for findings. -/
theorem eventFindings_only (rule : String) (e : Event) (g : Group) (patterns : List String) :
    eventFindings rule (.only g patterns) e = shareOf rule e g patterns := by
  rw [eventFindings_parts]
  cases g with
  | attributeValues =>
    rw [attributeFindings_values rule e rfl]
    simp [Options.only, Options.ofGroups, shareOf_nil]
  | all | attributeNames | tagNames | text =>
    rw [attributeFindings_names rule e rfl]
    simp [Options.only, Options.ofGroups, shareOf_nil]

/-! ## Patterns one by one -/

/-- A share is made up of what its patterns find one by one. -/
theorem shareOf_patterns (rule : String) (e : Event) (g : Group) (patterns : List String) :
    (shareOf rule e g patterns : Multiset Diagnostic) =
      (patterns : Multiset String).bind fun raw => (shareOf rule e g [raw] : Multiset Diagnostic) := by
  have hsingle : ∀ raw, shareOf rule e g [raw] =
      (g.textsOf e).flatMap fun text => patternFindings rule e g.category text raw := by
    intro raw
    unfold shareOf groupFindings
    simp only [Option.getD_some, List.flatMap_singleton]
  simp only [hsingle]
  unfold shareOf groupFindings
  simp only [Option.getD_some, ← Multiset.coe_bind]
  exact Multiset.bind_bind _ _

/-- **The findings of events are those of all patterns taken alone**, in some order. -/
theorem findings_patterns (rule : String) (o : Options) (es : List Event) :
    (es.flatMap (eventFindings rule o) : Multiset Diagnostic) =
      (o.patterns : Multiset (Group × String)).bind fun x =>
        (es.flatMap (fun e => shareOf rule e x.1 [x.2]) : Multiset Diagnostic) := by
  have hevent : ∀ e, (eventFindings rule o e : Multiset Diagnostic) =
      (o.patterns : Multiset (Group × String)).bind fun x =>
        (shareOf rule e x.1 [x.2] : Multiset Diagnostic) := by
    intro e
    rw [Multiset.coe_eq_coe.mpr (eventFindings_shares rule o e)]
    unfold Options.patterns
    simp only [← Multiset.coe_bind, ← Multiset.map_coe, Multiset.bind_assoc, Multiset.bind_map]
    exact Multiset.bind_congr fun g _ => shareOf_patterns rule e g _
  simp only [← Multiset.coe_bind, hevent]
  exact Multiset.bind_bind _ _

end WordLint
