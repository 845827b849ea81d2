import WordLint.Proofs.Lint.Endings
import WordLint.Proofs.Lint.Outcomes
import WordLint.Proofs.Lint.Shares

/-!
# Findings add up

What a pattern finds does not depend on the patterns that it is configured with. So the log of a run with a
whole mapping of patterns is made up of the logs of runs with one pattern each, and only their order among
each other is left open.

**The law** (`lintText_additive`): over any document, the log of a run with a mapping is the sum of the logs of
its patterns taken alone, as multisets. So it does not matter in which order keys and patterns are written,
and a mapping that is split in two finds in two runs what it finds in one. Options without patterns find
nothing.

A mapping is given as a `PatternTable`: it is accepted, its patterns can be read, and it has no key twice, as
every dictionary. The last of these is needed: of two entries with the same key only the first would count.
-/

namespace WordLint

open Recorded

/-! ## The entries of a mapping -/

namespace Value

/-- The patterns in the entries of a mapping, each with its key, as they stand there. -/
def patternsIn (es : List (Value × Value)) : List (Value × String) :=
  es.flatMap fun entry => (entry.2.strings?.getD []).map (entry.1, ·)

/-- A mapping with one key and one pattern. -/
def alone (x : Value × String) : Value :=
  .dict [(x.1, .list [.str x.2])]

end Value

namespace Schema

variable {es : List (Value × Value)}

/-- The patterns in an accepted mapping are those of the options that it comes to. -/
theorem patternsIn_perm (hes : ∀ entry ∈ es, blockWords.AdmitsEntry entry)
    (hdistinct : (es.map Prod.fst).Nodup) :
    (Value.patternsIn es).Perm ((optionsOf es).patterns.map fun x => (.str x.1.key, x.2)) := by
  have hget : ∀ g : Group, (optionsOf es).get g = (Value.lookup? g.key es).bind Value.strings? :=
    fun g => Options.get_ofGroups _ g
  have hgroup : ∀ g : Group, ((Value.lookup? g.key es).map ((.str g.key : Value), ·)).toList.flatMap
        (fun entry => (entry.2.strings?.getD []).map (entry.1, ·)) =
      ((((Value.lookup? g.key es).bind Value.strings?).getD []).map (g, ·)).map
        fun x => ((.str x.1.key : Value), x.2) := by
    intro g
    cases Value.lookup? g.key es with
    | none => rfl
    | some v => simp
  refine ((entries_perm hes hdistinct).flatMap_right _).trans (.of_eq ?_)
  rw [List.filterMap_eq_flatMap_toList, List.flatMap_assoc, Options.patterns, List.map_flatMap]
  simp only [hget, hgroup]

/-- A mapping with one key and one pattern comes to options with this pattern only. -/
theorem accepts_alone (g : Group) (raw : String) :
    blockWords.Accepts (Value.alone (.str g.key, raw)) (.only g [raw]) := by
  cases g <;> exact accepts_of_read rfl

end Schema

/-! ## Logs -/

/-- The log of a document holds the findings of the events that were read, also when the document cannot be
read to its end. -/
theorem log_play (l : Listener) (html : String) (h : l.options.Readable) :
    (play (Subscriptions.add [] Subscriptions.allEvents l) html).log =
      (Markup.read html).events.flatMap (eventFindings l.rule l.options) := by
  unfold play
  rw [(Yields.noted rfl).log_bind, List.nil_append, (playEvents_yields l _ h).log_bind]
  cases (Markup.read html).fault with
  | none => exact List.append_nil _
  | some fault => exact List.append_nil _

theorem log_lintText (html : String) {v : Value} {o : Options} (hv : Schema.blockWords.Accepts v o)
    (h : o.Readable) :
    (lintText html [(.str "block-words", v)]).log =
      (Markup.read html).events.flatMap (eventFindings "block-words" o) := by
  obtain ⟨given, hresolve, hread⟩ := hv
  have hlisten := listenAll_single hresolve (listen_yields hread)
  unfold lintText
  rw [log_bind]
  have hend : ∀ n, (Recorded.note (.finished n) : Run Unit).log = [] := fun _ => rfl
  rw [hend, ite_self, List.append_nil]
  unfold lintBody
  rw [(Yields.noted rfl).log_bind, hlisten.log_bind]
  exact log_play ⟨"block-words", o⟩ html h

/-- A run with one pattern finds the share of its group. -/
theorem log_lintText_alone (html : String) (g : Group) {raw : String}
    (hraw : ∃ p, Pattern.compile raw = .ok p) :
    (lintText html [(.str "block-words", .alone (.str g.key, raw))]).log =
      (Markup.read html).events.flatMap fun e => shareOf "block-words" e g [raw] := by
  rw [log_lintText html (Schema.accepts_alone g raw)
    (Options.only_readable g (readable_singleton.mpr hraw))]
  exact List.flatMap_congr fun e _ => eventFindings_only "block-words" e g [raw]

/-- A run with options that have no patterns finds nothing. -/
theorem log_lintText_of_no_patterns (html : String) {v : Value} {o : Options}
    (hv : Schema.blockWords.Accepts v o) (ho : o.patterns = []) :
    (lintText html [(.str "block-words", v)]).log = [] := by
  have hreadable : o.Readable := Options.readable_iff.mpr (by simp [ho])
  rw [log_lintText html hv hreadable, ← Multiset.coe_eq_zero, findings_patterns, ho]
  rfl

/-! ## Mappings with patterns -/

/-- A mapping that is accepted, and whose patterns can be read. As in every dictionary, no key stands twice. -/
structure PatternTable where
  value : Value
  entries : List (Value × Value)
  isMapping : value.Maps entries
  distinct : (entries.map Prod.fst).Nodup
  admitted : ∀ entry ∈ entries, Schema.blockWords.AdmitsEntry entry
  readable : Readable ((Value.patternsIn entries).map Prod.snd)

namespace PatternTable

/-- The patterns of a table, each with its key, as they stand there. -/
def patterns (t : PatternTable) : List (Value × String) :=
  Value.patternsIn t.entries

/-- The options that a table comes to. -/
def options (t : PatternTable) : Options :=
  Schema.optionsOf t.entries

theorem accepts (t : PatternTable) : Schema.blockWords.Accepts t.value t.options :=
  accepts_of_read (Schema.read_eq_ok_iff.mpr (.mapping t.isMapping t.admitted))

theorem patterns_perm (t : PatternTable) :
    t.patterns.Perm (t.options.patterns.map fun x => (.str x.1.key, x.2)) :=
  Schema.patternsIn_perm t.admitted t.distinct

theorem readable_pattern (t : PatternTable) {x : Group × String} (hx : x ∈ t.options.patterns) :
    ∃ p, Pattern.compile x.2 = .ok p := by
  have hmem : ((.str x.1.key, x.2) : Value × String) ∈ t.patterns :=
    t.patterns_perm.mem_iff.mpr (List.mem_map.mpr ⟨x, hx, rfl⟩)
  exact t.readable x.2 (List.mem_map.mpr ⟨_, hmem, rfl⟩)

theorem options_readable (t : PatternTable) : t.options.Readable :=
  Options.readable_iff.mpr fun _ hx => t.readable_pattern hx

theorem only_readable (t : PatternTable) {x : Group × String} (hx : x ∈ t.options.patterns) :
    (Options.only x.1 [x.2]).Readable :=
  Options.only_readable x.1 (readable_singleton.mpr (t.readable_pattern hx))

/-- The log of a run with a table is the sum of the logs of its patterns. -/
theorem log_eq_sum (t : PatternTable) (html : String) :
    ((lintText html [(.str "block-words", t.value)]).log : Multiset Diagnostic) =
      ((t.patterns : Multiset (Value × String)).map fun x =>
        ((lintText html [(.str "block-words", .alone x)]).log : Multiset Diagnostic)).sum := by
  rw [log_lintText html t.accepts t.options_readable, findings_patterns,
    Multiset.coe_eq_coe.mpr t.patterns_perm, ← Multiset.map_coe, Multiset.map_map]
  exact Multiset.bind_congr fun x hx =>
    congrArg _ (log_lintText_alone html x.1 (t.readable_pattern hx)).symm

end PatternTable

/-! ## The law -/

/-- **Findings add up.** Over any document, the log of a run with a table of patterns is the sum of the logs
of its patterns taken alone, whatever their order; where the document can be read to its end, all these runs
come to theirs. The log of a pattern alone holds the share of its group in the events. So a table with the
same patterns in another order has the same findings, a table that is split in two has those of both parts
together, and options without patterns have none, those among them that stand for a rule that is merely
switched on. -/
theorem lintText_additive (t : PatternTable) (html : String) :
    ((lintText html [(.str "block-words", t.value)]).log : Multiset Diagnostic) =
      ((t.patterns : Multiset (Value × String)).map fun x =>
        ((lintText html [(.str "block-words", .alone x)]).log : Multiset Diagnostic)).sum ∧
    ((Markup.read html).fault = none →
      (lintText html [(.str "block-words", t.value)]).result = .ok () ∧
        ∀ x ∈ t.patterns, (lintText html [(.str "block-words", .alone x)]).result = .ok ()) ∧
    (∀ g raw, (∃ p, Pattern.compile raw = .ok p) →
      (lintText html [(.str "block-words", .alone (.str g.key, raw))]).log =
        (Markup.read html).events.flatMap fun e => shareOf "block-words" e g [raw]) ∧
    (∀ t' : PatternTable, t'.patterns.Perm t.patterns →
      (lintText html [(.str "block-words", t'.value)]).log.Perm
        (lintText html [(.str "block-words", t.value)]).log) ∧
    (∀ t₁ t₂ : PatternTable, t.patterns.Perm (t₁.patterns ++ t₂.patterns) →
      (lintText html [(.str "block-words", t.value)]).log.Perm
        ((lintText html [(.str "block-words", t₁.value)]).log ++
          (lintText html [(.str "block-words", t₂.value)]).log)) ∧
    (∀ v o, Schema.blockWords.Accepts v o → o.patterns = [] →
      (lintText html [(.str "block-words", v)]).log = []) ∧
    (lintText html [(.str "block-words", .bool true)]).log = [] := by
  refine ⟨t.log_eq_sum html, fun hhtml => ⟨?_, ?_⟩, ?_, ?_, ?_, ?_, ?_⟩
  · exact (lintText_yields hhtml t.accepts t.options_readable).result
  · intro x hx
    obtain ⟨x', hx', rfl⟩ := List.mem_map.mp (t.patterns_perm.mem_iff.mp hx)
    exact (lintText_yields hhtml (Schema.accepts_alone x'.1 x'.2) (t.only_readable hx')).result
  · intro g raw hraw
    exact log_lintText_alone html g hraw
  · intro t' hperm
    rw [← Multiset.coe_eq_coe, t'.log_eq_sum, t.log_eq_sum, Multiset.coe_eq_coe.mpr hperm]
  · intro t₁ t₂ hperm
    rw [← Multiset.coe_eq_coe, ← Multiset.coe_add, t.log_eq_sum, t₁.log_eq_sum, t₂.log_eq_sum,
      Multiset.coe_eq_coe.mpr hperm, ← Multiset.coe_add, Multiset.map_add, Multiset.sum_add]
  · intro v o hv ho
    exact log_lintText_of_no_patterns html hv ho
  · exact log_lintText_of_no_patterns html ⟨.options .blank, rfl, rfl⟩ rfl

/-- Three patterns under two keys. -/
def twoKeys : PatternTable where
  value := .dict [(.str "text", .list [.str "ad", .str "a"]), (.str "attributeValues", .list [.str "B.D"])]
  entries := [(.str "text", .list [.str "ad", .str "a"]), (.str "attributeValues", .list [.str "B.D"])]
  isMapping := .dict _
  distinct := by simp
  admitted := Schema.objectionTo?_eq_none_iff.mp rfl
  readable := by
    intro raw hraw
    have hcases : raw = "ad" ∨ raw = "a" ∨ raw = "B.D" := by
      simpa [Value.patternsIn, Value.strings?, Value.items?, Value.str?] using hraw
    rcases hcases with rfl | rfl | rfl <;> exact ⟨_, rfl⟩

/-- Three patterns in a run, and in runs of their own. -/
theorem lintText_additive_two_keys :
    ((lintText "<B id=bad>Ad</B>" [(.str "block-words", twoKeys.value)]).log : Multiset Diagnostic) =
      (lintText "<B id=bad>Ad</B>" [(.str "block-words", .alone (.str "text", "ad"))]).log +
        ((lintText "<B id=bad>Ad</B>" [(.str "block-words", .alone (.str "text", "a"))]).log +
          (lintText "<B id=bad>Ad</B>" [(.str "block-words", .alone (.str "attributeValues", "B.D"))]).log) ∧
    (lintText "<B id=bad>Ad</B>" [(.str "block-words", twoKeys.value)]).log.messages =
      ["Blocked attribute word from /b.d/g detected in b: \"bad\"",
        "Blocked text word from /ad/g detected: \"ad\"", "Blocked text word from /a/g detected: \"a\""] := by
  have hread : Markup.read "<B id=bad>Ad</B>" = ⟨[
      ⟨.startTag, 1, 1, "<B id=bad>", some "b", [⟨"id", "bad"⟩], false⟩,
      ⟨.text, 1, 11, "Ad", none, [], false⟩,
      ⟨.endTag, 1, 13, "</B>", some "b", [], false⟩], none⟩ := by
    cbv
  refine ⟨(lintText_additive twoKeys "<B id=bad>Ad</B>").1.trans ?_, ?_⟩
  · have hpatterns : twoKeys.patterns =
        [(.str "text", "ad"), (.str "text", "a"), (.str "attributeValues", "B.D")] := rfl
    rw [hpatterns, Multiset.map_coe, Multiset.sum_coe]
    simp only [List.map_cons, List.map_nil, List.sum_cons, List.sum_nil, add_zero]
  · rw [log_lintText _ twoKeys.accepts twoKeys.options_readable, hread]
    rfl

end WordLint
