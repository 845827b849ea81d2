import WordLint.Proofs.Rule.Admission

/-!
# Mappings and the options that they come to

A mapping is looked up by its keys, so where no key stands twice the order of its entries does not matter
(`lookup?_eq_some_iff`), and neither does it whether the strings of a group stand in a list or in a tuple.

**The law** (`mapping_round_trip`): an accepted mapping and the options that it comes to hold the same patterns
in the same groups. Written out again, the options are the mapping with its groups in their own order and all
of them as lists; and what options are written out as is read as these options.
-/

namespace WordLint

/-! ## Groups -/

namespace Group

theorem mem_list (g : Group) : g ∈ list := by
  cases g <;> decide

theorem key_injective : Function.Injective key := by
  intro g g'
  cases g <;> cases g' <;> simp [key]

end Group

namespace Options

theorem get_ofGroups (patterns : Group → Option (List String)) (g : Group) :
    (ofGroups patterns).get g = patterns g := by
  cases g <;> rfl

/-- The groups that are there are some of all groups, in their order. -/
theorem groups_fst (o : Options) :
    o.groups.map Prod.fst = Group.list.filter fun g => (o.get g).isSome := by
  rw [groups, List.map_filterMap, ← List.filterMap_eq_filter]
  refine List.filterMap_congr fun g _ => ?_
  cases h : o.get g <;> simp [Option.guard, h]

/-- Options are known by their groups. -/
theorem eq_of_get {o o' : Options} (h : ∀ g, o.get g = o'.get g) : o = o' := by
  have hall := h .all
  have hnames := h .attributeNames
  have hvalues := h .attributeValues
  have htags := h .tagNames
  have htext := h .text
  cases o
  cases o'
  simp only [get] at hall hnames hvalues htags htext
  rw [hall, hnames, hvalues, htags, htext]

end Options

/-! ## The entries of a mapping -/

namespace Value

variable {es : List (Value × Value)}

theorem sameKey_str_iff {k : Value} {key : String} : k.sameKey (.str key) = true ↔ k = .str key := by
  cases k <;> simp [sameKey]

/-- In a mapping that has no key twice, the value of a textual key is the one that stands with it. -/
theorem lookup?_eq_some_iff (hes : (es.map Prod.fst).Nodup) {key : String} {v : Value} :
    lookup? key es = some v ↔ (.str key, v) ∈ es := by
  induction es with
  | nil => simp [lookup?]
  | cons entry rest ih =>
    obtain ⟨k, v'⟩ := entry
    obtain ⟨hfirst, hrest⟩ := List.nodup_cons.mp hes
    rw [lookup?, List.mem_cons]
    by_cases hk : k.sameKey (.str key) = true
    · obtain rfl := sameKey_str_iff.mp hk
      have hnone : (Value.str key, v) ∉ rest :=
        fun hmem => hfirst (List.mem_map.mpr ⟨_, hmem, rfl⟩)
      simp [hk, hnone, eq_comm]
    · have hother : (Value.str key, v) ≠ (k, v') := by
        intro heq
        cases heq
        exact hk (sameKey_str_iff.mpr rfl)
      simp [hk, hother, ih hrest]

/-- The strings of a list or a tuple are known by it. -/
theorem IsTexts.unique {v : Value} {texts texts' : List String} (h : v.IsTexts texts) (h' : v.IsTexts texts') :
    texts = texts' :=
  Option.some.inj ((strings?_eq_some_iff.mpr h).symm.trans (strings?_eq_some_iff.mpr h'))

/-- A group that a mapping comes to has the strings that stand with its key. -/
theorem get_optionsOf_eq_some_iff (hes : (es.map Prod.fst).Nodup) {g : Group} {texts : List String} :
    (Schema.optionsOf es).get g = some texts ↔ ∃ w, (.str g.key, w) ∈ es ∧ w.IsTexts texts := by
  unfold Schema.optionsOf
  rw [Options.get_ofGroups, Option.bind_eq_some_iff]
  simp only [lookup?_eq_some_iff hes, strings?_eq_some_iff]

/-! ## Options as a dictionary -/

/-- The entries that options are written out as: one list for each group that is there. -/
theorem mem_ofOptions {o : Options} {k w : Value} :
    (k, w) ∈ ofOptions o ↔
      ∃ g texts, o.get g = some texts ∧ k = .str g.key ∧ w = .list (texts.map .str) := by
  unfold ofOptions Options.groups
  simp only [List.mem_map, List.mem_filterMap, Option.map_eq_some_iff]
  constructor
  · rintro ⟨_, ⟨g, _, texts, hget, rfl⟩, heq⟩
    cases heq
    exact ⟨g, texts, hget, rfl, rfl⟩
  · rintro ⟨g, texts, hget, rfl, rfl⟩
    exact ⟨(g, texts), ⟨g, g.mem_list, texts, hget, rfl⟩, rfl⟩

/-- The groups are written out in their order. -/
theorem ofOptions_keys_sublist (o : Options) :
    ((ofOptions o).map Prod.fst).Sublist (Group.list.map fun g => .str g.key) := by
  have hkeys : (ofOptions o).map Prod.fst = (o.groups.map Prod.fst).map fun g => .str g.key := by
    rw [ofOptions, List.map_map, List.map_map]
    rfl
  rw [hkeys, Options.groups_fst]
  exact List.filter_sublist.map _

theorem ofOptions_keys_nodup (o : Options) : ((ofOptions o).map Prod.fst).Nodup := by
  refine (ofOptions_keys_sublist o).nodup ?_
  refine List.Nodup.map (fun g g' heq => ?_) (by decide)
  injection heq with hkey
  exact Group.key_injective hkey

end Value

namespace Schema

variable {s : Schema} {v : Value} {es es' : List (Value × Value)} {o : Options}

/-! ## Mappings that come to the same -/

/-- Two entries have the same key, and the same items in a list or a tuple. -/
def AlikeEntries (a b : Value × Value) : Prop :=
  a.1 = b.1 ∧ ∃ items, (a.2 = .list items ∨ a.2 = .tuple items) ∧ (b.2 = .list items ∨ b.2 = .tuple items)

/-- A mapping is another one with its entries in some order, each list perhaps a tuple or the reverse. -/
def Rearranged (es es' : List (Value × Value)) : Prop :=
  ∃ ordered, es.Perm ordered ∧ List.Forall₂ AlikeEntries ordered es'

theorem AlikeEntries.symm {a b : Value × Value} (h : AlikeEntries a b) : AlikeEntries b a := by
  obtain ⟨hkey, items, ha, hb⟩ := h
  exact ⟨hkey.symm, items, hb, ha⟩

theorem AlikeEntries.isTexts {a b : Value × Value} (h : AlikeEntries a b) {texts : List String}
    (ha : a.2.IsTexts texts) : b.2.IsTexts texts := by
  obtain ⟨_, items, hitems, hb⟩ := h
  have hsame := (Value.items?_eq_some_iff.mpr hitems).symm.trans (Value.items?_eq_some_iff.mpr ha)
  cases hsame
  exact hb

/-- Every entry of the one mapping has one like it in the other. -/
theorem Rearranged.exists_alike (h : Rearranged es es') :
    (∀ a ∈ es, ∃ b ∈ es', AlikeEntries a b) ∧ ∀ b ∈ es', ∃ a ∈ es, AlikeEntries a b := by
  obtain ⟨ordered, hperm, halike⟩ := h
  have hpairs : (∀ a ∈ ordered, ∃ b ∈ es', AlikeEntries a b) ∧
      ∀ b ∈ es', ∃ a ∈ ordered, AlikeEntries a b := by
    clear hperm
    induction halike with
    | nil => exact ⟨fun _ h => absurd h List.not_mem_nil, fun _ h => absurd h List.not_mem_nil⟩
    | cons hab _ ih =>
      refine ⟨fun a ha => ?_, fun b hb => ?_⟩
      · rcases List.mem_cons.mp ha with rfl | ha
        · exact ⟨_, List.mem_cons_self, hab⟩
        · obtain ⟨b, hb, hab⟩ := ih.1 a ha
          exact ⟨b, List.mem_cons_of_mem _ hb, hab⟩
      · rcases List.mem_cons.mp hb with rfl | hb
        · exact ⟨_, List.mem_cons_self, hab⟩
        · obtain ⟨a, ha, hab⟩ := ih.2 b hb
          exact ⟨a, List.mem_cons_of_mem _ ha, hab⟩
  refine ⟨fun a ha => hpairs.1 a (hperm.mem_iff.mp ha), fun b hb => ?_⟩
  obtain ⟨a, ha, hab⟩ := hpairs.2 b hb
  exact ⟨a, hperm.mem_iff.mpr ha, hab⟩

/-- A rearranged mapping has no key twice either. -/
theorem Rearranged.nodup (h : Rearranged es es') (hes : (es.map Prod.fst).Nodup) :
    (es'.map Prod.fst).Nodup := by
  obtain ⟨ordered, hperm, halike⟩ := h
  have hkeys : ordered.map Prod.fst = es'.map Prod.fst := by
    clear hperm
    induction halike with
    | nil => rfl
    | cons hab _ ih => rw [List.map_cons, List.map_cons, hab.1, ih]
  rw [← hkeys]
  exact ((hperm.map Prod.fst).nodup_iff).mp hes

/-- A rearranged mapping is admitted like the other one. -/
theorem Rearranged.admits (h : Rearranged es es') (hes : ∀ entry ∈ es, s.AdmitsEntry entry) :
    ∀ entry ∈ es', s.AdmitsEntry entry := by
  intro b hb
  obtain ⟨a, ha, halike⟩ := h.exists_alike.2 b hb
  obtain ⟨⟨key, hkey, hname⟩, texts, htexts⟩ := hes a ha
  exact ⟨⟨key, hkey, halike.1 ▸ hname⟩, texts, halike.isTexts htexts⟩

/-- A rearranged mapping comes to the same options. -/
theorem Rearranged.optionsOf_eq (h : Rearranged es es') (hes : (es.map Prod.fst).Nodup) :
    optionsOf es' = optionsOf es := by
  refine Options.eq_of_get fun g => Option.ext fun texts => ?_
  rw [Value.get_optionsOf_eq_some_iff (h.nodup hes), Value.get_optionsOf_eq_some_iff hes]
  constructor
  · rintro ⟨w, hw, htexts⟩
    obtain ⟨⟨k, w'⟩, hmem, halike⟩ := h.exists_alike.2 _ hw
    obtain rfl : k = .str g.key := halike.1
    exact ⟨w', hmem, halike.symm.isTexts htexts⟩
  · rintro ⟨w, hw, htexts⟩
    obtain ⟨⟨k, w'⟩, hmem, halike⟩ := h.exists_alike.1 _ hw
    obtain rfl : .str g.key = k := halike.1
    exact ⟨w', hmem, halike.isTexts htexts⟩

/-! ## Mappings with the keys of the groups -/

/-- The entries of an accepted mapping, listed by the groups that their keys stand for. -/
theorem entries_perm (hes : ∀ entry ∈ es, blockWords.AdmitsEntry entry)
    (hdistinct : (es.map Prod.fst).Nodup) :
    es.Perm (Group.list.filterMap fun g => (Value.lookup? g.key es).map (.str g.key, ·)) := by
  have hlisted : (Group.list.filterMap fun g =>
      (Value.lookup? g.key es).map ((.str g.key : Value), ·)).Nodup := by
    refine List.Nodup.filterMap ?_ (by decide)
    intro g g' entry h h'
    obtain ⟨_, _, rfl⟩ := Option.map_eq_some_iff.mp h
    obtain ⟨_, _, heq⟩ := Option.map_eq_some_iff.mp h'
    injection heq with hkey _
    injection hkey with hkey
    exact Group.key_injective hkey.symm
  refine (List.perm_ext_iff_of_nodup (List.Nodup.of_map _ hdistinct) hlisted).mpr ?_
  rintro ⟨k, v⟩
  simp only [List.mem_filterMap, Option.map_eq_some_iff, Value.lookup?_eq_some_iff hdistinct]
  constructor
  · intro hmem
    obtain ⟨key, hkey, rfl : k = .str key⟩ := (hes _ hmem).1
    obtain ⟨g, hg, rfl⟩ := List.mem_map.mp hkey
    exact ⟨g, hg, v, hmem, rfl⟩
  · rintro ⟨g, _, v', hmem, heq⟩
    cases heq
    exact hmem

/-- What the options of an accepted mapping are written out as is the mapping rearranged: nothing is lost or
added, and nothing moves to another group. -/
theorem rearranged_ofOptions (hes : ∀ entry ∈ es, blockWords.AdmitsEntry entry)
    (hdistinct : (es.map Prod.fst).Nodup) : Rearranged es (Value.ofOptions (optionsOf es)) := by
  have hgroup : ∀ g w, Value.lookup? g.key es = some w →
      ∃ texts, (optionsOf es).get g = some texts ∧ w.IsTexts texts := by
    intro g w hw
    have hmem := (Value.lookup?_eq_some_iff hdistinct).mp hw
    obtain ⟨texts, htexts⟩ := (hes _ hmem).2
    exact ⟨texts, (Value.get_optionsOf_eq_some_iff hdistinct).mpr ⟨w, hmem, htexts⟩, htexts⟩
  have hnone : ∀ g : Group, Value.lookup? g.key es = none → (optionsOf es).get g = none := by
    intro g hg
    rw [optionsOf, Options.get_ofGroups, hg, Option.bind_none]
  refine ⟨_, entries_perm hes hdistinct, ?_⟩
  unfold Value.ofOptions Options.groups
  induction Group.list with
  | nil => exact .nil
  | cons g rest ih =>
    rw [List.filterMap_cons, List.filterMap_cons]
    cases hw : Value.lookup? g.key es with
    | none =>
      rw [hnone g hw]
      exact ih
    | some w =>
      obtain ⟨texts, hget, htexts⟩ := hgroup g w hw
      rw [hget]
      exact .cons ⟨rfl, _, htexts, .inl rfl⟩ ih

/-! ## Reading mappings -/

theorem objection?_mapping (hv : v.Maps es) :
    s.objection? v = none ↔ ∀ entry ∈ es, s.AdmitsEntry entry := by
  unfold objection?
  rw [Value.entries?_eq_some_iff.mpr hv]
  exact objectionTo?_eq_none_iff

/-- A mapping is read as the options of its entries, when they are all admitted. -/
theorem read_mapping_iff (hv : v.Maps es) :
    s.read v = .ok o ↔ (∀ entry ∈ es, s.AdmitsEntry entry) ∧ optionsOf es = o := by
  rw [read_eq_ok_iff]
  constructor
  · intro h
    cases h with
    | options => cases hv
    | emptyList => cases hv
    | emptyTuple => cases hv
    | mapping hv' hes =>
      obtain rfl := hv'.unique hv
      exact ⟨hes, rfl⟩
  · rintro ⟨hes, rfl⟩
    exact .mapping hv hes

/-- Options that are written out are read as themselves. -/
theorem read_ofOptions (o : Options) : blockWords.read (.dict (Value.ofOptions o)) = .ok o := by
  refine (read_mapping_iff (.dict _)).mpr ⟨?_, Options.eq_of_get fun g => Option.ext fun texts => ?_⟩
  · rintro ⟨k, w⟩ hmem
    obtain ⟨g, texts, _, rfl, rfl⟩ := Value.mem_ofOptions.mp hmem
    exact ⟨⟨g.key, List.mem_map.mpr ⟨g, g.mem_list, rfl⟩, rfl⟩, texts, .inl rfl⟩
  · rw [Value.get_optionsOf_eq_some_iff (Value.ofOptions_keys_nodup o)]
    constructor
    · rintro ⟨w, hmem, htexts⟩
      obtain ⟨g', texts', hget, hkey, rfl⟩ := Value.mem_ofOptions.mp hmem
      injection hkey with hkey
      obtain rfl := Group.key_injective hkey
      rwa [htexts.unique (.inl rfl)]
    · intro hget
      exact ⟨_, Value.mem_ofOptions.mpr ⟨g, texts, hget, rfl, rfl⟩, .inl rfl⟩

/-- A value under a key of a group, as the entries of what its options are written out as. -/
theorem mem_ofOptions_of_read (hv : v.Maps es) (hes : (es.map Prod.fst).Nodup)
    (hread : s.read v = .ok o) (k w : Value) :
    (k, w) ∈ Value.ofOptions o ↔
      ∃ (g : Group) (items : List Value), k = .str g.key ∧ w = .list items ∧
        ((k, .list items) ∈ es ∨ (k, .tuple items) ∈ es) := by
  obtain ⟨hadmitted, rfl⟩ := (read_mapping_iff hv).mp hread
  rw [Value.mem_ofOptions]
  constructor
  · rintro ⟨g, texts, hget, rfl, rfl⟩
    obtain ⟨w, hmem, rfl | rfl⟩ := (Value.get_optionsOf_eq_some_iff hes).mp hget
    · exact ⟨g, _, rfl, rfl, .inl hmem⟩
    · exact ⟨g, _, rfl, rfl, .inr hmem⟩
  · rintro ⟨g, items, rfl, rfl, hmem⟩
    have htexts : ∀ w, (w = .list items ∨ w = .tuple items) → (.str g.key, w) ∈ es →
        ∃ texts, (optionsOf es).get g = some texts ∧ items = texts.map .str := by
      intro w hw hmem
      obtain ⟨texts, htexts⟩ := (hadmitted _ hmem).2
      have hsame := (Value.items?_eq_some_iff.mpr hw).symm.trans (Value.items?_eq_some_iff.mpr htexts)
      exact ⟨texts, (Value.get_optionsOf_eq_some_iff hes).mpr ⟨w, hmem, htexts⟩, Option.some.inj hsame⟩
    rcases hmem with hmem | hmem
    · obtain ⟨texts, hget, rfl⟩ := htexts _ (.inl rfl) hmem
      exact ⟨g, texts, hget, rfl, rfl⟩
    · obtain ⟨texts, hget, rfl⟩ := htexts _ (.inr rfl) hmem
      exact ⟨g, texts, hget, rfl, rfl⟩

/-- **Mappings and options.** A mapping is accepted exactly when every key is known and every value is a list or
a tuple of strings, in whatever order the entries stand. The options that it comes to are written out as the
entries whose keys are those of groups, in the order of the groups and with lists for tuples. With the keys of
the groups as the known ones this is all of the mapping, rearranged; a group is absent exactly when its key is,
and empty when it stands there with no strings. A rearranged mapping comes to the same options; and what
options are written out as is read as the options again. -/
theorem mapping_round_trip (s : Schema) {v : Value} {es : List (Value × Value)}
    (hv : v.Maps es) (hes : (es.map Prod.fst).Nodup) :
    (s.objection? v = none ↔ ∀ entry ∈ es, (∃ key ∈ s.keys, entry.1 = .str key) ∧
      ∃ texts : List String, entry.2 = .list (texts.map .str) ∨ entry.2 = .tuple (texts.map .str)) ∧
    (∀ es', es.Perm es' → (s.objection? (.dict es') = none ↔ s.objection? v = none)) ∧
    ((∃ o, s.read v = .ok o) ↔ s.objection? v = none) ∧
    (∀ o, s.read v = .ok o →
      (((Value.ofOptions o).map Prod.fst).Sublist (Group.list.map fun g => .str g.key) ∧
        ∀ k w, (k, w) ∈ Value.ofOptions o ↔
          ∃ (g : Group) (items : List Value), k = .str g.key ∧ w = .list items ∧
            ((k, .list items) ∈ es ∨ (k, .tuple items) ∈ es)) ∧
      (s.keys = Group.list.map Group.key → Rearranged es (Value.ofOptions o)) ∧
      (∀ g, (o.get g = none ↔ ∀ w, (.str g.key, w) ∉ es) ∧
        (o.get g = some [] ↔ (.str g.key, .list []) ∈ es ∨ (.str g.key, .tuple []) ∈ es)) ∧
      ∀ v' es', v'.Maps es' → Rearranged es es' → s.read v' = .ok o) ∧
    ∀ o, blockWords.read (.dict (Value.ofOptions o)) = .ok o := by
  refine ⟨objection?_mapping hv, ?_, ?_, ?_, read_ofOptions⟩
  · intro es' hperm
    rw [objection?_mapping hv, objection?_mapping (.dict _)]
    exact forall_congr' fun entry => imp_congr_left hperm.mem_iff.symm
  · rw [objection?_mapping hv]
    simp only [read_mapping_iff hv, exists_and_left, exists_eq', and_true]
  · intro o hread
    have hentries := mem_ofOptions_of_read hv hes hread
    obtain ⟨hadmitted, rfl⟩ := (read_mapping_iff hv).mp hread
    refine ⟨⟨Value.ofOptions_keys_sublist _, hentries⟩, ?_, fun g => ⟨?_, ?_⟩, ?_⟩
    · intro hkeys
      refine rearranged_ofOptions (fun entry hmem => ?_) hes
      obtain ⟨⟨key, hkey, hname⟩, htexts⟩ := hadmitted entry hmem
      rw [hkeys] at hkey
      exact ⟨⟨key, hkey, hname⟩, htexts⟩
    · constructor
      · intro hnone w hmem
        obtain ⟨texts, htexts⟩ := (hadmitted _ hmem).2
        have hget := (Value.get_optionsOf_eq_some_iff hes).mpr ⟨w, hmem, htexts⟩
        rw [hnone] at hget
        cases hget
      · intro hall
        refine Option.eq_none_iff_forall_not_mem.mpr fun texts hget => ?_
        obtain ⟨w, hmem, _⟩ := (Value.get_optionsOf_eq_some_iff hes).mp hget
        exact hall w hmem
    · rw [Value.get_optionsOf_eq_some_iff hes]
      constructor
      · rintro ⟨w, hmem, rfl | rfl⟩
        · exact .inl hmem
        · exact .inr hmem
      · rintro (hmem | hmem)
        · exact ⟨_, hmem, .inl rfl⟩
        · exact ⟨_, hmem, .inr rfl⟩
    · intro v' es' hv' hrearranged
      exact (read_mapping_iff hv').mpr ⟨hrearranged.admits hadmitted, hrearranged.optionsOf_eq hes⟩

/-- A window on a window on three groups, the last one first and one of them empty: its entries come to the same in
their order and as lists. -/
theorem mapping_round_trip_window :
    (List.map Prod.fst [((.str "text" : Value), (.tuple [.str "b"] : Value)), (.str "tagNames", .list []),
      (.str "all", .list [.str "b", .str "a"])]).Nodup ∧
    blockWords.read (.view (.view (.dict [(.str "text", .tuple [.str "b"]), (.str "tagNames", .list []),
        (.str "all", .list [.str "b", .str "a"])]))) = .ok ⟨some ["b", "a"], none, none, some [], some ["b"]⟩ ∧
      Rearranged [(.str "text", .tuple [.str "b"]), (.str "tagNames", .list []),
          (.str "all", .list [.str "b", .str "a"])]
        [(.str "all", .list [.str "b", .str "a"]), (.str "tagNames", .list []), (.str "text", .list [.str "b"])] ∧
      blockWords.read (.dict [(.str "all", .list [.str "b", .str "a"]), (.str "tagNames", .list []),
        (.str "text", .list [.str "b"])]) = .ok ⟨some ["b", "a"], none, none, some [], some ["b"]⟩ := by
  have hdistinct : (List.map Prod.fst [((.str "text" : Value), (.tuple [.str "b"] : Value)),
      (.str "tagNames", .list []), (.str "all", .list [.str "b", .str "a"])]).Nodup := by
    simp
  have hread : blockWords.read (.view (.view (.dict [(.str "text", .tuple [.str "b"]), (.str "tagNames", .list []),
      (.str "all", .list [.str "b", .str "a"])]))) = .ok ⟨some ["b", "a"], none, none, some [], some ["b"]⟩ := rfl
  obtain ⟨_, _, _, hoptions, _⟩ := mapping_round_trip blockWords (.view (.view (.dict _))) hdistinct
  obtain ⟨_, hrearranged, _, hsame⟩ := hoptions _ hread
  exact ⟨hdistinct, hread, hrearranged rfl, hsame _ _ (.dict _) (hrearranged rfl)⟩

end Schema

end WordLint
