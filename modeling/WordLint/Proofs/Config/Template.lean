import Mathlib
import WordLint.Config.Template
import WordLint.Proofs.Rule.Groups
import WordLint.Proofs.Toml.Passing
import WordLint.Proofs.Toml.Writing

/-!
# A configuration to start with is read back

The configuration for some rules is put together as a draft that has a table for each rule, with the arrays of its
groups. A writer spells the draft and a reader reads it.

**The law** (`template_reads_back`): with any writer and any reader that do what is asked of them, the rules of the
configuration are the given ones with their options, when the names of the rules and the patterns are among those that
the reader keeps. Descriptions may be any texts. A reader that keeps all names and all patterns keeps every rule; the
reader of the library does not, and `comma_lost` is a pattern that it does not read back.
-/

namespace WordLint

open Toml (Line Writer Reader Writes ReadsLines TextTable TextDraft textItems textValues held)

/-! ## The draft of a configuration -/

/-- The groups that options have, under their keys. -/
def Options.keyed (o : Options) : List (String × List String) :=
  o.groups.map fun g => (g.1.key, g.2)

/-- A name of bare characters needs no marks. -/
theorem bare_of_all {name : String} (h : (!name.toList.isEmpty && name.toList.all Toml.isBare) = true) :
    Toml.IsBareName name := by
  simpa [Toml.IsBareName, Bool.and_eq_true] using h

theorem Group.key_bare (g : Group) : Toml.IsBareName g.key :=
  bare_of_all (by cases g <;> decide)

theorem rulesKey_bare : Toml.IsBareName Config.rulesKey :=
  bare_of_all (by decide)

/-- No two groups have the same key. -/
theorem Options.keyed_nodup (o : Options) : (o.keyed.map Prod.fst).Nodup := by
  have hkeys : (Group.list.map Group.key).Nodup := by decide
  have hmap : o.keyed.map Prod.fst = (o.groups.map Prod.fst).map Group.key := by
    rw [keyed, List.map_map, List.map_map]
    rfl
  rw [hmap, groups_fst]
  exact (List.filter_sublist.map _).nodup hkeys

/-- The table of a rule. -/
def Rule.textTable (r : Rule) : TextTable :=
  ⟨r.id, r.description, r.schema.defaults.keyed⟩

theorem Rule.keyed_textTable (r : Rule) : r.textTable.Keyed where
  bare := List.forall_mem_map.mpr fun g _ => g.1.key_bare
  distinct := r.schema.defaults.keyed_nodup

namespace Config

/-- The draft of a configuration for some rules, as one of tables with arrays of texts. -/
def textDraft (rules : List Rule) : TextDraft where
  comments := ["BlockWords configuration", "Set a rule to `false` to disable it."]
  parent := rulesKey
  tables := rules.map Rule.textTable

theorem draft_entries (rules : List Rule) : draft (rules.map Rule.entry) = (textDraft rules).toDraft := by
  unfold draft TextDraft.toDraft textDraft
  refine congrArg (Toml.Draft.mk _ _) ?_
  rw [List.map_map, List.map_map]
  refine List.map_congr_left fun r _ => congrArg (Toml.DraftTable.mk _ _) ?_
  show Value.ofOptions r.schema.defaults = (r.schema.defaults.groups.map _).map _
  rw [List.map_map]
  rfl

theorem keyed_textDraft (rules : List Rule) : (textDraft rules).Keyed where
  parent := rulesKey_bare
  tables := List.forall_mem_map.mpr fun r _ => r.keyed_textTable

theorem names_textDraft (rules : List Rule) : (textDraft rules).names = rules.map Rule.id := by
  unfold TextDraft.names textDraft
  rw [List.map_map]
  rfl

variable {write : Writer} {rules : List Rule}

/-- **The configuration is written** when no two rules have the same name: its headers and keys are those of the
rules. -/
theorem templateBy_spelled (hwrite : Writes write) (hids : (rules.map Rule.id).Nodup) :
    ∃ text ls, templateBy write (rules.map Rule.entry) = .ok text ∧ text.toList = Toml.linesChars ls ∧
      (∀ l ∈ ls, l.Shaped) ∧ Toml.loud ls = (textDraft rules).lines := by
  unfold templateBy
  rw [draft_entries]
  exact hwrite.spelled _ (keyed_textDraft rules) (names_textDraft rules ▸ hids)

/-- Otherwise it is refused, for the first name that is taken. -/
theorem templateBy_taken (hwrite : Writes write) {id : String} (hid : Toml.FirstTaken (rules.map Rule.id) id) :
    templateBy write (rules.map Rule.entry) = .error (.keyTaken id) := by
  unfold templateBy
  rw [draft_entries]
  exact hwrite.taken _ (keyed_textDraft rules) id (names_textDraft rules ▸ hid)

end Config

/-! ## The tables that are read -/

/-- The table of a rule as it is read. -/
def Rule.table (r : Rule) : String × Toml.Item :=
  (r.id, .table true (textItems r.textTable.groups))

/-- The tables of rules are added one after the other. -/
theorem foldlM_rules {rules : List Rule} (done : Toml.Entries)
    (hids : (done.map Prod.fst ++ rules.map Rule.id).Nodup) (path : List String) :
    ∃ path', (Config.textDraft rules).lines.foldlM Line.effect ⟨held Config.rulesKey done, path⟩ =
      some ⟨held Config.rulesKey (done ++ rules.map Rule.table), path'⟩ := by
  induction rules generalizing done path with
  | nil => exact ⟨path, by rw [List.map_nil, List.append_nil]; rfl⟩
  | cons r rules ih =>
    have hdistinct : (r.id :: (done.map Prod.fst ++ rules.map Rule.id)).Nodup := List.nodup_middle.mp hids
    have hnew : r.id ∉ done.map Prod.fst := mt (List.mem_append_left _) (List.nodup_cons.mp hdistinct).1
    have hfirst : (r.textTable.lines Config.rulesKey).foldlM Line.effect ⟨held Config.rulesKey done, path⟩ =
        some ⟨held Config.rulesKey (done ++ [r.table]), [Config.rulesKey, r.id]⟩ := by
      have := @Toml.foldlM_table Config.rulesKey.toList r.id.toList done
        (by rwa [String.ofList_toList]) path [] _ r.keyed_textTable.groups_nodup
      rwa [String.ofList_toList, String.ofList_toList] at this
    obtain ⟨path', hmore⟩ := ih (done ++ [r.table]) (by simpa [Rule.table] using hids)
      [Config.rulesKey, r.id]
    have hlines : (Config.textDraft (r :: rules)).lines =
        r.textTable.lines Config.rulesKey ++ (Config.textDraft rules).lines := List.flatMap_cons
    refine ⟨path', ?_⟩
    rw [hlines, List.foldlM_append, hfirst]
    rw [List.append_assoc] at hmore
    exact hmore

/-! ## The rules that are read -/

theorem toPairs_eq_map (es : Toml.Entries) :
    Toml.toPairs es = es.map fun e => (.str e.1, e.2.toValue) := by
  induction es with
  | nil => rfl
  | cons e es ih => rw [List.map_cons, ← ih]; rfl

/-- The names of rules with their options, as the entries of a dictionary. -/
def defaultEntries (rules : List Rule) : List (Value × Value) :=
  rules.map fun r => (.str r.id, .dict (Value.ofOptions r.schema.defaults))

/-- The tables stand for the options of the rules. -/
theorem toPairs_tables (rules : List Rule) :
    Toml.toPairs (rules.map Rule.table) = defaultEntries rules := by
  have htable : ∀ r : Rule, Toml.toPairs (textItems r.textTable.groups) = Value.ofOptions r.schema.defaults := by
    intro r
    rw [toPairs_eq_map, textItems, TextTable.groups, Rule.textTable, Options.keyed, Value.ofOptions, List.map_map,
      List.map_map, List.map_map]
    refine List.map_congr_left fun g _ => ?_
    show (Value.str (String.ofList g.1.key.toList), Value.list (textValues (g.2.map String.toList))) = _
    rw [String.ofList_toList, textValues, List.map_map]
    simp only [Function.comp_def, String.ofList_toList]
  rw [toPairs_eq_map, List.map_map, defaultEntries]
  refine List.map_congr_left fun r _ => ?_
  show (Value.str r.id, Value.dict (Toml.toPairs (textItems r.textTable.groups))) = _
  rw [htable]

/-! ## Written out -/

/-- A list that every step leaves as it is. -/
theorem mapIdx_self {α : Type} {f : Nat → α → α} {xs : List α} (h : ∀ i, ∀ x ∈ xs, f i x = x) :
    xs.mapIdx f = xs := by
  refine List.ext_getElem (by simp) fun i h₁ h₂ => ?_
  rw [List.getElem_mapIdx]
  exact h i _ (List.getElem_mem h₂)

theorem writeOut_str (fuel : Nat) (active : List (Option Route)) (around : List Container) (route : Route)
    (s : String) : Place.writeOut (fuel + 1) active ⟨around, route, .str s⟩ = .str s := by
  rw [Place.writeOut]
  cases h : active.findIdx? (· == some route) <;> simp only [Place.follow, h]

/-- A list of texts inside containers that are being written. -/
theorem writeOut_texts (fuel : Nat) {active : List (Option Route)} {route : Route}
    (hroute : some route ∉ active) (around : List Container) (ps : List String) :
    Place.writeOut (fuel + 2) active ⟨around, route, .list (ps.map .str)⟩ = .list (ps.map .str) := by
  have hactive : active.findIdx? (· == some route) = none := by
    rw [List.findIdx?_eq_none_iff]
    intro r hr
    rw [beq_eq_false_iff_ne]
    rintro rfl
    exact hroute hr
  rw [Place.writeOut]
  simp only [Place.follow, hactive]
  refine congrArg Value.list (mapIdx_self fun i v hv => ?_)
  obtain ⟨p, _, rfl⟩ := List.mem_map.mp hv
  exact writeOut_str fuel _ _ _ p

/-- Options hold nothing that lies outside of them. -/
theorem writeOut_options (fuel : Nat) (around : List Container) (route : Route) (o : Options) :
    Place.writeOut (fuel + 3) [] ⟨around, route, .dict (Value.ofOptions o)⟩ =
      .dict (Value.ofOptions o) := by
  rw [Place.writeOut]
  simp only [Place.follow, List.findIdx?_nil]
  refine congrArg Value.dict (mapIdx_self fun i e he => ?_)
  obtain ⟨g, _, rfl⟩ := List.mem_map.mp he
  refine congrArg (Prod.mk _) (writeOut_texts fuel ?_ _ g.2)
  simp

theorem Value.size_pos (v : Value) : 0 < v.size := by
  cases v <;> simp [Value.size]

/-- The table of rules on its own. -/
theorem entries_defaultEntries (around : List Container) (route : Route) (rules : List Rule) :
    Place.entries ⟨around, route, .dict (defaultEntries rules)⟩ = defaultEntries rules := by
  unfold Place.entries Place.entriesWithin
  simp only [Place.dictionary, Place.behindWindows, Place.follow]
  generalize hp : (⟨around, route, .dict (defaultEntries rules)⟩ : Place) = p
  have hextent : 0 < p.extent := Value.size_pos _
  have hdepth : 2 * 2 ≤ p.depthBound := Nat.mul_le_mul (by omega) (by omega)
  obtain ⟨n, hn⟩ : ∃ n, p.depthBound = n + 3 := ⟨p.depthBound - 3, by omega⟩
  rw [hn]
  refine mapIdx_self fun i e he => ?_
  obtain ⟨r, _, rfl⟩ := List.mem_map.mp he
  exact congrArg (Prod.mk _) (writeOut_options n _ _ _)

/-! ## The law -/

/-- What is written for some rules is read as their tables. -/
theorem read_templateBy {write : Writer} {read : Reader} {names texts : List Char → Prop} (hwrite : Writes write)
    (hread : ReadsLines read names texts) {rules : List Rule} (hids : (rules.map Rule.id).Nodup)
    (hnames : ∀ r ∈ rules, names r.id.toList)
    (htexts : ∀ r ∈ rules, ∀ g ∈ r.schema.defaults.groups, ∀ p ∈ g.2, texts p.toList) :
    ∃ text, Config.templateBy write (rules.map Rule.entry) = .ok text ∧
      read text = .ok (Toml.toPairs (held Config.rulesKey (rules.map Rule.table))) := by
  obtain ⟨text, ls, htext, hchars, hshaped, hloud⟩ := Config.templateBy_spelled hwrite hids
  obtain ⟨path, hfold⟩ := foldlM_rules [] hids []
  have hwithin : ∀ l ∈ (Config.textDraft rules).lines, l.Within names texts := by
    refine List.forall_mem_flatMap.mpr (List.forall_mem_map.mpr fun r hr => List.forall_mem_cons.mpr ⟨?_, ?_⟩)
    · exact ⟨rulesKey_bare.1, rulesKey_bare.2, hnames r hr⟩
    · refine List.forall_mem_map.mpr (List.forall_mem_map.mpr (List.forall_mem_map.mpr fun g hg => ?_))
      exact ⟨g.1.key_bare.1, g.1.key_bare.2, List.forall_mem_map.mpr (htexts r hr g hg)⟩
  refine ⟨text, htext, ?_⟩
  rw [hread ls text (Toml.within_of_loud hshaped (hloud ▸ hwithin)) hchars, ← Toml.foldlM_loud, hloud]
  show Toml.orMalformed (Option.map _ (List.foldlM Line.effect ⟨held Config.rulesKey [], []⟩ _)) = _
  rw [hfold]
  rfl

/-- **A configuration to start with is read back**, by a reader that keeps the names of its rules and their
patterns. -/
theorem template_reads_back {write : Writer} {read : Reader} {names texts : List Char → Prop}
    (hwrite : Writes write) (hread : ReadsLines read names texts) {rules : List Rule}
    (hids : (rules.map Rule.id).Nodup) (hnames : ∀ r ∈ rules, names r.id.toList)
    (htexts : ∀ r ∈ rules, ∀ g ∈ r.schema.defaults.groups, ∀ p ∈ g.2, texts p.toList) :
    ∃ text place, Config.templateBy write (rules.map Rule.entry) = .ok text ∧
      Config.rulesOfTextBy read text false = .done place ∧ place.entries = defaultEntries rules := by
  obtain ⟨text, htext, hpairs⟩ := read_templateBy hwrite hread hids hnames htexts
  cases rules with
  | nil =>
    -- no header, no table of rules
    refine ⟨text, .root (.dict []), htext, ?_, rfl⟩
    unfold Config.rulesOfTextBy
    rw [hpairs]
    rfl
  | cons r rules =>
    have hheld : Toml.toPairs (held Config.rulesKey ((r :: rules).map Rule.table)) =
        [(.str Config.rulesKey, .dict (defaultEntries (r :: rules)))] := by
      rw [← toPairs_tables]
      rfl
    rw [hheld] at hpairs
    refine ⟨text, (Place.root (.dict [(.str Config.rulesKey, .dict (defaultEntries (r :: rules)))])).part 0
      (.dict (defaultEntries (r :: rules))), htext, ?_, entries_defaultEntries _ _ _⟩
    unfold Config.rulesOfTextBy
    rw [hpairs]
    rfl

/-- A rule with patterns for all markup. -/
def ruleBlocking (id description : String) (patterns : List String) : Rule :=
  ⟨{ Schema.blockWords with rule := id, defaults := { Options.absent with all := some patterns } },
    description, []⟩

/-- Names with points, brackets and blanks, and patterns with commas, marks, backslashes and controls, with the writer
and the reader of the library. -/
theorem template_reads_back_marked :
    let rules := [ruleBlocking "block-words" "One\r\nTwo" ["a,b", "\\bx\\d", "[\"#]é", "\t\x01,"],
      ruleBlocking "no. 1 [#] é" "" [], ruleBlocking "none" "\n" ["", " ", "]"]]
    Writes Toml.write ∧ ReadsLines Toml.read Toml.NameKept Toml.ReadsBack ∧
      ∃ text place, Config.templateBy Toml.write (rules.map Rule.entry) = .ok text ∧
        Config.rulesOfTextBy Toml.read text false = .done place ∧ place.entries = defaultEntries rules :=
  ⟨Toml.writes_write, Toml.readsLines_read, template_reads_back Toml.writes_write Toml.readsLines_read
    (by decide +kernel) (by decide +kernel) (by decide +kernel)⟩

/-- **A comma at the front of a pattern**: a writer and a reader can do what is asked of them, and cut it into two empty
ones. -/
theorem comma_lost :
    ∃ (write : Writer) (read : Reader), Writes write ∧ ReadsLines read Toml.NameKept Toml.ReadsBack ∧
      ∃ text place, Config.templateBy write [(ruleBlocking "block-words" "d" [","]).entry] = .ok text ∧
        Config.rulesOfTextBy read text false = .done place ∧
        place.entries = defaultEntries [ruleBlocking "block-words" "d" ["", ""]] ∧
        place.entries ≠ defaultEntries [ruleBlocking "block-words" "d" [","]] := by
  let read := defaultEntries [ruleBlocking "block-words" "d" ["", ""]]
  refine ⟨Toml.write, Toml.read, Toml.writes_write, Toml.readsLines_read,
    "# BlockWords configuration\n# Set a rule to `false` to disable it.\n\n[rules.block-words]\n# d\n" ++
    "all = [\",\"]\n", (Place.root (.dict [(.str "rules", .dict read)])).part 0 (.dict read), ?_, ?_, rfl, ?_⟩
  · decide +kernel
  · unfold Config.rulesOfTextBy
    rw [Toml.read_of_pass (by cbv) (by decide +kernel)]
    rfl
  · show defaultEntries [ruleBlocking "block-words" "d" ["", ""]] ≠ _
    simp [defaultEntries, ruleBlocking, Value.ofOptions, Options.groups, Options.get, Options.absent,
      Options.ofGroups, Group.list]

end WordLint
