import WordLint.Lint.Session
import WordLint.Proofs.Lint.Yields

/-!
# What a rule finds in an event

The findings of an event are written down here without any run: which texts of the event are looked at
for which group of patterns, in which order, and how a word that was found becomes a diagnostic.

**The law** (`hear_yields`): a listener whose patterns can all be read reports the findings of the event,
in this order, and comes to an end. It is put together from the laws of its steps: patterns are read in
order (`readPatterns_yields`), a check reports what its group finds (`runCheck_yields`), and the checks
of an event are those that the findings speak of (`checks_findings`).
-/

namespace WordLint

/-! ## Findings -/

/-- The diagnostic about a word that a pattern has found in an event. -/
def findingOf (rule : String) (e : Event) (category : Option Category) (p : Pattern) (word : String) :
    Diagnostic where
  severity := .error
  message := blockedWordMessage word p.render (e.element.map Text.lower) category
  line := e.line
  col := e.col
  rule := rule
  raw := e.raw

/-- What one pattern finds in a text: a finding for each span, from left to right. -/
def patternFindings (rule : String) (e : Event) (category : Option Category) (text raw : String) : Log :=
  match Pattern.compile raw with
  | .ok p =>
    (p.expression.spans (searchedText text)).map fun span =>
      findingOf rule e category p (Regex.spanText (searchedText text) span)
  | .error _ => []

/-- What a group of patterns finds in a text: pattern by pattern, in the order of the configuration. An
absent group finds nothing. -/
def groupFindings (rule : String) (e : Event) (category : Option Category)
    (group : Option (List String)) (text : String) : Log :=
  (group.getD []).flatMap (patternFindings rule e category text)

/-- What the rule finds in an event: in the name of a start tag, in a text, in the attributes of a start
tag one by one, each in its value before its name, and in the markup as a whole. A comment is passed
over; empty names and empty markup are not looked at. -/
def eventFindings (rule : String) (o : Options) (e : Event) : Log :=
  if e.kind = .comment then []
  else
    (if e.kind = .startTag ∧ e.element.getD "" ≠ "" then
      groupFindings rule e (some .tagName) o.tagNames (e.element.getD "") else []) ++
    (if e.kind = .text ∧ e.raw ≠ "" then groupFindings rule e (some .text) o.text e.raw else []) ++
    (if e.kind = .startTag ∧ e.raw ≠ "" then
      e.attributes.flatMap fun a =>
        groupFindings rule e (some .attribute) o.attributeValues a.value ++
          groupFindings rule e (some .attribute) o.attributeNames a.name else []) ++
    (if e.raw ≠ "" then groupFindings rule e none o.all e.raw else [])

/-! ## What one check reports -/

/-- All patterns of a list can be read. -/
def Readable (patterns : List String) : Prop :=
  ∀ raw ∈ patterns, ∃ p, Pattern.compile raw = .ok p

theorem readable_singleton {raw : String} : Readable [raw] ↔ ∃ p, Pattern.compile raw = .ok p :=
  List.forall_mem_singleton

/-- The patterns of all groups can be read. -/
def Options.Readable (o : Options) : Prop :=
  ∀ g patterns, o.get g = some patterns → WordLint.Readable patterns

namespace Listener

open Recorded

/-- The patterns of a list that can be read, in order. -/
def compiled (patterns : List String) : List Pattern :=
  patterns.filterMap fun raw => (Pattern.compile raw).toOption

theorem compiled_cons_ok {raw : String} {p : Pattern} (rest : List String)
    (hp : Pattern.compile raw = .ok p) : compiled (raw :: rest) = p :: compiled rest := by
  simp only [compiled, List.filterMap_cons, hp, Except.toOption]

theorem compiled_cons_error {raw : String} {f : Regex.Failure} (rest : List String)
    (hf : Pattern.compile raw = .error f) : compiled (raw :: rest) = compiled rest := by
  simp only [compiled, List.filterMap_cons, hf, Except.toOption]

/-- Reading patterns reports nothing and keeps their order. -/
theorem readPatterns_yields (patterns : List String) (h : Readable patterns) :
    Yields (readPatterns patterns) (compiled patterns) [] := by
  induction patterns with
  | nil => exact .pure []
  | cons raw rest ih =>
    obtain ⟨p, hp⟩ := h raw List.mem_cons_self
    have hrest := ih fun raw' hmem => h raw' (List.mem_cons_of_mem _ hmem)
    rw [compiled_cons_ok rest hp]
    unfold readPatterns
    refine .quiet rfl ?_
    have hfirst : Yields (Recorded.ofExcept LintError.pattern (Pattern.compile raw)) p [] :=
      .ofExcept LintError.pattern hp
    exact hfirst.bind (hrest.bind (.pure _))

/-- Messages are reported one after the other. -/
theorem report_yields (l : Listener) (e : Event) (messages : List String) :
    Yields (l.report e messages) () (messages.map (l.diagnosticOf e)) := by
  induction messages with
  | nil => exact .pure ()
  | cons message rest ih => exact .quiet rfl ((Yields.reported _).bind ih)

/-- What the patterns find, once they are read, are the findings of the group. -/
theorem reported_eq_groupFindings (l : Listener) (e : Event) (category : Option Category)
    (text : String) (patterns : List String) :
    (((compiled patterns).flatMap (·.occurrencesIn (searchedText text))).map
        (messageOf e category)).map (l.diagnosticOf e) =
      groupFindings l.rule e category (some patterns) text := by
  unfold groupFindings
  rw [Option.getD_some]
  induction patterns with
  | nil => rfl
  | cons raw rest ih =>
    rw [List.flatMap_cons, ← ih]
    unfold patternFindings
    cases hcompile : Pattern.compile raw with
    | error failure =>
      rw [compiled_cons_error rest hcompile]
      rfl
    | ok p =>
      rw [compiled_cons_ok rest hcompile, List.flatMap_cons, List.map_append, List.map_append]
      refine congrArg (· ++ _) ?_
      unfold Pattern.occurrencesIn
      rw [List.map_map, List.map_map]
      rfl

/-- What a check finds. -/
def checkFindings (l : Listener) (e : Event) (c : Check) : Log :=
  groupFindings l.rule e c.category (some c.patterns) c.text

/-- A check whose patterns can be read reports its findings. -/
theorem runCheck_yields (l : Listener) (e : Event) (c : Check) (h : Readable c.patterns) :
    Yields (l.runCheck e c) () (l.checkFindings e c) := by
  have hread := readPatterns_yields c.patterns h
  have hreport := report_yields l e
    (((compiled c.patterns).flatMap (·.occurrencesIn (searchedText c.text))).map
      (messageOf e c.category))
  rw [reported_eq_groupFindings] at hreport
  exact hread.bind hreport

/-- Checks report one after the other. -/
theorem runChecks_yields (l : Listener) (e : Event) (checks : List Check)
    (h : ∀ c ∈ checks, Readable c.patterns) :
    Yields (l.runChecks e checks) () (checks.flatMap (l.checkFindings e)) := by
  induction checks with
  | nil => exact .pure ()
  | cons c rest ih =>
    rw [List.flatMap_cons]
    exact (runCheck_yields l e c (h c List.mem_cons_self)).bind
      (ih fun c' hmem => h c' (List.mem_cons_of_mem _ hmem))

/-! ## What an event leads to -/

/-- A check of a group is made exactly when the group is there, with its patterns. -/
theorem checkOf_findings (l : Listener) (e : Event) (group : Option (List String)) (text : String)
    (category : Option Category) :
    (checkOf group text category).flatMap (l.checkFindings e) =
      groupFindings l.rule e category group text := by
  cases group with
  | none => rfl
  | some patterns => exact List.append_nil _

/-- The value of an attribute is looked at before its name. -/
theorem attributeChecks_findings (l : Listener) (e : Event) (a : Attribute) :
    (l.attributeChecks a).flatMap (l.checkFindings e) =
      groupFindings l.rule e (some .attribute) l.options.attributeValues a.value ++
        groupFindings l.rule e (some .attribute) l.options.attributeNames a.name := by
  unfold attributeChecks
  rw [List.flatMap_append, checkOf_findings, checkOf_findings]

theorem nameChecks_eq (l : Listener) (e : Event) :
    l.nameChecks e =
      if e.kind = .startTag ∧ e.element.getD "" ≠ "" then
        checkOf l.options.tagNames (e.element.getD "") (some .tagName) else [] := by
  unfold nameChecks
  split
  · rename_i name hkind helement
    rw [hkind, helement, Option.getD_some]
    by_cases hempty : name = ""
    · simp [hempty]
    · simp [hempty]
  · rename_i hother
    rw [if_neg]
    rintro ⟨hkind, helement⟩
    cases hname : e.element with
    | none =>
      rw [hname] at helement
      exact helement rfl
    | some name => exact hother name hkind hname

theorem nameChecks_findings (l : Listener) (e : Event) :
    (l.nameChecks e).flatMap (l.checkFindings e) =
      if e.kind = .startTag ∧ e.element.getD "" ≠ "" then
        groupFindings l.rule e (some .tagName) l.options.tagNames (e.element.getD "") else [] := by
  rw [nameChecks_eq]
  split
  · exact checkOf_findings l e l.options.tagNames _ _
  · rfl

theorem contentChecks_findings (l : Listener) (e : Event) :
    (l.contentChecks e).flatMap (l.checkFindings e) =
      (if e.kind = .text then groupFindings l.rule e (some .text) l.options.text e.raw else []) ++
        if e.kind = .startTag then
          e.attributes.flatMap fun a =>
            groupFindings l.rule e (some .attribute) l.options.attributeValues a.value ++
              groupFindings l.rule e (some .attribute) l.options.attributeNames a.name else [] := by
  unfold contentChecks
  cases hkind : e.kind with
  | startTag => simp [List.flatMap_assoc, attributeChecks_findings]
  | text => simp [checkOf_findings]
  | endTag => simp
  | comment => simp

/-- The findings of the checks of an event are the findings of the event. -/
theorem checks_findings (l : Listener) (e : Event) :
    (l.checks e).flatMap (l.checkFindings e) = eventFindings l.rule l.options e := by
  unfold checks eventFindings
  by_cases hcomment : e.kind = .comment
  · simp [hcomment]
  · by_cases hraw : e.raw = ""
    · simp [hcomment, hraw, nameChecks_findings]
    · simp [hcomment, hraw, nameChecks_findings, contentChecks_findings, checkOf_findings]

/-- The patterns of a check are those of its group. -/
theorem mem_checkOf {group : Option (List String)} {text : String} {category : Option Category}
    {c : Check} (h : c ∈ checkOf group text category) : group = some c.patterns := by
  cases group with
  | none => cases h
  | some patterns => rw [List.mem_singleton.mp h]

theorem mem_nameChecks {l : Listener} {e : Event} {c : Check} (h : c ∈ l.nameChecks e) :
    ∃ g, l.options.get g = some c.patterns := by
  unfold nameChecks at h
  split at h
  · split at h
    · cases h
    · exact ⟨.tagNames, mem_checkOf h⟩
  · cases h

theorem mem_contentChecks {l : Listener} {e : Event} {c : Check} (h : c ∈ l.contentChecks e) :
    ∃ g, l.options.get g = some c.patterns := by
  unfold contentChecks at h
  split at h
  · obtain ⟨a, _, h⟩ := List.mem_flatMap.mp h
    rcases List.mem_append.mp h with h | h
    · exact ⟨.attributeValues, mem_checkOf h⟩
    · exact ⟨.attributeNames, mem_checkOf h⟩
  · exact ⟨.text, mem_checkOf h⟩
  · cases h

/-- A check looks for the patterns of one of the groups. -/
theorem exists_group_of_mem_checks {l : Listener} {e : Event} {c : Check} (h : c ∈ l.checks e) :
    ∃ g, l.options.get g = some c.patterns := by
  unfold checks at h
  split at h
  · cases h
  · rcases List.mem_append.mp h with h | h
    · exact mem_nameChecks h
    · split at h
      · cases h
      · rcases List.mem_append.mp h with h | h
        · exact mem_contentChecks h
        · exact ⟨.all, mem_checkOf h⟩

/-- A listener whose patterns can all be read reports the findings of the event. -/
theorem hear_yields (l : Listener) (e : Event) (h : l.options.Readable) :
    Yields (l.hear e) () (eventFindings l.rule l.options e) := by
  have hchecks : ∀ c ∈ l.checks e, Readable c.patterns := by
    intro c hmem
    obtain ⟨g, hg⟩ := exists_group_of_mem_checks hmem
    exact h g c.patterns hg
  rw [← checks_findings]
  exact runChecks_yields l e (l.checks e) hchecks

end Listener

/-! ## Where findings are -/

/-- A finding of a group has the place and the markup of its event. -/
theorem place_of_mem_groupFindings {rule : String} {e : Event} {category : Option Category}
    {group : Option (List String)} {text : String} {d : Diagnostic}
    (h : d ∈ groupFindings rule e category group text) :
    d.severity = .error ∧ d.line = e.line ∧ d.col = e.col ∧ d.raw = e.raw := by
  unfold groupFindings at h
  obtain ⟨raw, _, h⟩ := List.mem_flatMap.mp h
  unfold patternFindings at h
  split at h
  · obtain ⟨span, _, rfl⟩ := List.mem_map.mp h
    exact ⟨rfl, rfl, rfl, rfl⟩
  · cases h

/-- A finding of an event is an error, and has the place and the markup of the event. -/
theorem place_of_mem_eventFindings {rule : String} {o : Options} {e : Event} {d : Diagnostic}
    (h : d ∈ eventFindings rule o e) :
    d.severity = .error ∧ d.line = e.line ∧ d.col = e.col ∧ d.raw = e.raw := by
  unfold eventFindings at h
  split at h
  · cases h
  · simp only [List.mem_append] at h
    rcases h with ((h | h) | h) | h
    · split at h
      · exact place_of_mem_groupFindings h
      · cases h
    · split at h
      · exact place_of_mem_groupFindings h
      · cases h
    · split at h
      · obtain ⟨a, _, h⟩ := List.mem_flatMap.mp h
        exact (List.mem_append.mp h).elim place_of_mem_groupFindings place_of_mem_groupFindings
      · cases h
    · split at h
      · exact place_of_mem_groupFindings h
      · cases h

end WordLint
