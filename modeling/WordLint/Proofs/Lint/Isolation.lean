import WordLint.Proofs.Lint.Outcomes
import WordLint.Proofs.Lint.Shares

/-!
# What the messages of a group depend on

A group of patterns reads some events and passes over all others, and of those that it reads it looks at one
part only. Its messages show, beside the words that were found, the names of the elements. Two lists of
events that agree in this much (`Group.Agree`) cannot be told apart by the messages: not by the events that
are passed over, by the other parts of those that are read, or by positions.

**The law** (`messages_isolated`): with patterns in one group, events that agree in what the group reads lead
to the same messages, in the same order. A step of it is the law for one event (`messages_shareOf`): events
that are passed over have no texts to look at, and of those that are read the texts are the same.

The name of the element counts for texts as well, although no text is looked at for it: a text that is given
one shows it in its messages (`text_shows_element`).
-/

namespace WordLint

namespace Group

/-! ## What a group reads -/

/-- The events that a group reads. -/
def Reads : Group → Event → Prop
  | .all, e => e.kind ≠ .comment
  | .attributeNames, e | .attributeValues, e => e.kind = .startTag ∧ e.raw ≠ ""
  | .tagNames, e => e.kind = .startTag
  | .text, e => e.kind = .text

/-- What a group looks at in an event that it reads, beside the name of the element. -/
def contentOf : Group → Event → List String
  | .all, e | .text, e => [e.raw]
  | .attributeNames, e => e.attributes.map (·.name)
  | .attributeValues, e => e.attributes.map (·.value)
  | .tagNames, _ => []

/-- Two events agree in what a group reads: it reads both or neither, and those that it reads are alike in
what it looks at, and in the name of the element. -/
structure Agree (g : Group) (e e' : Event) : Prop where
  reads : g.Reads e ↔ g.Reads e'
  content : g.Reads e → g.contentOf e = g.contentOf e'
  element : g.Reads e → e.element = e'.element

variable {g : Group} {e e' : Event}

/-- In an event that a group does not read, there is no text that it looks at. -/
theorem textsOf_of_not_reads (h : ¬ g.Reads e) : g.textsOf e = [] := by
  cases g with
  | attributeNames | attributeValues => exact if_neg h
  | all | tagNames | text => exact if_neg fun hchecked => h hchecked.1

/-- Where events agree in what a group reads, it looks at the same texts. -/
theorem Agree.textsOf_eq (h : g.Agree e e') : g.textsOf e = g.textsOf e' := by
  by_cases hreads : g.Reads e
  · have hreads' := h.reads.mp hreads
    have hcontent := h.content hreads
    cases g with
    | attributeNames | attributeValues =>
      exact ((if_pos hreads).trans hcontent).trans (if_pos hreads').symm
    | tagNames =>
      have hkind : e.kind = .startTag := hreads
      have hkind' : e'.kind = .startTag := hreads'
      simp [textsOf, hkind, hkind', h.element hreads]
    | text =>
      have hkind : e.kind = .text := hreads
      have hkind' : e'.kind = .text := hreads'
      have hraw : e.raw = e'.raw := List.singleton_inj.mp hcontent
      simp [textsOf, hkind, hkind', hraw]
    | all =>
      have hkind : e.kind ≠ .comment := hreads
      have hkind' : e'.kind ≠ .comment := hreads'
      have hraw : e.raw = e'.raw := List.singleton_inj.mp hcontent
      simp [textsOf, hkind, hkind', hraw]
  · rw [textsOf_of_not_reads hreads, textsOf_of_not_reads (mt h.reads.mpr hreads)]

end Group

/-! ## Messages -/

/-- The messages of a finding depend on the event by the name of its element only. -/
theorem messages_groupFindings (rule : String) {e e' : Event} (helement : e.element = e'.element)
    (category : Option Category) (patterns : List String) (text : String) :
    Log.messages (groupFindings rule e category (some patterns) text) =
      Log.messages (groupFindings rule e' category (some patterns) text) := by
  unfold Log.messages groupFindings
  rw [List.map_flatMap, List.map_flatMap]
  refine List.flatMap_congr fun raw _ => ?_
  unfold patternFindings
  cases Pattern.compile raw with
  | error f => dsimp only
  | ok p =>
    dsimp only
    rw [List.map_map, List.map_map]
    refine List.map_congr_left fun span _ => ?_
    simp only [Function.comp_apply, findingOf, helement]

/-- **The messages about one event.** Events that agree in what a group reads have the same messages. -/
theorem messages_shareOf (rule : String) {g : Group} {e e' : Event} (h : g.Agree e e')
    (patterns : List String) :
    Log.messages (shareOf rule e g patterns) = Log.messages (shareOf rule e' g patterns) := by
  unfold shareOf
  rw [← h.textsOf_eq]
  by_cases hreads : g.Reads e
  · unfold Log.messages
    rw [List.map_flatMap, List.map_flatMap]
    exact List.flatMap_congr fun text _ =>
      messages_groupFindings rule (h.element hreads) g.category patterns text
  · rw [Group.textsOf_of_not_reads hreads, List.flatMap_nil, List.flatMap_nil]

/-- Lists of events that agree in what a group reads have the same messages. -/
theorem messages_findings_only (rule : String) {g : Group} (patterns : List String)
    {es es' : List Event} (h : List.Forall₂ g.Agree es es') :
    Log.messages (es.flatMap (eventFindings rule (.only g patterns))) =
      Log.messages (es'.flatMap (eventFindings rule (.only g patterns))) := by
  induction h with
  | nil => rfl
  | cons hagree _ ih =>
    unfold Log.messages at ih ⊢
    rw [List.flatMap_cons, List.flatMap_cons, List.map_append, List.map_append, ih,
      eventFindings_only, eventFindings_only]
    exact congrArg (· ++ _) (messages_shareOf rule hagree patterns)

/-- **What the messages of a group depend on.** Options with patterns in one group are given to a rule. Two
lists of events that agree, event by event, in what the group reads are delivered to the end, and lead to the
same messages in the same order: those of the shares of the group in the events. -/
theorem messages_isolated (s : Schema) (v : Value) (g : Group) (patterns : List String)
    (hv : s.read v = .ok (.only g patterns)) (hpatterns : Readable patterns) (es es' : List Event)
    (h : List.Forall₂ g.Agree es es') :
    (playEvents (Host.empty.attach s v).1.subscriptions es).result = .ok () ∧
      (playEvents (Host.empty.attach s v).1.subscriptions es').result = .ok () ∧
      (playEvents (Host.empty.attach s v).1.subscriptions es).log.messages =
        (playEvents (Host.empty.attach s v).1.subscriptions es').log.messages ∧
      (playEvents (Host.empty.attach s v).1.subscriptions es).log =
        es.flatMap fun e => shareOf s.rule e g patterns := by
  have hruns := fun es => playEvents_yields ⟨s.rule, .only g patterns⟩ es
    (Options.only_readable g hpatterns)
  rw [attach_admitted Host.empty (Schema.read_eq_ok_iff.mp hv)]
  dsimp only [Host.empty]
  refine ⟨(hruns es).result, (hruns es').result, ?_, ?_⟩
  · rw [(hruns es).log, (hruns es').log]
    exact messages_findings_only s.rule patterns h
  · rw [(hruns es).log]
    exact List.flatMap_congr fun e _ => eventFindings_only s.rule e g patterns

/-- The value of an attribute, its tag's markup and position, and the text before it do not matter for the
names of attributes. -/
theorem messages_isolated_names :
    (playEvents (Host.empty.attach .blockWords (.dict [(.str "attributeNames",
        .list [.str "bad"])])).1.subscriptions
          [⟨.comment, 1, 1, "<!---->", none, [], false⟩,
            ⟨.startTag, 1, 8, "<a BAD>", some "a", [⟨"bad", ""⟩], false⟩]).log.messages =
      (playEvents (Host.empty.attach .blockWords (.dict [(.str "attributeNames",
        .list [.str "bad"])])).1.subscriptions
          [⟨.text, 1, 1, "bad\n", none, [], false⟩,
            ⟨.startTag, 2, 1, "<a bad=bad>", some "a", [⟨"bad", "bad"⟩], false⟩]).log.messages ∧
    (playEvents (Host.empty.attach .blockWords (.dict [(.str "attributeNames",
        .list [.str "bad"])])).1.subscriptions
          [⟨.text, 1, 1, "bad\n", none, [], false⟩,
            ⟨.startTag, 2, 1, "<a bad=bad>", some "a", [⟨"bad", "bad"⟩], false⟩]).log.messages =
      ["Blocked attribute word from /bad/g detected in a: \"bad\""] := by
  have hpatterns : Readable ["bad"] := readable_singleton.mpr ⟨_, rfl⟩
  have hunread : Group.attributeNames.Agree ⟨.comment, 1, 1, "<!---->", none, [], false⟩
      ⟨.text, 1, 1, "bad\n", none, [], false⟩ :=
    ⟨⟨nofun, nofun⟩, nofun, nofun⟩
  have hread : Group.attributeNames.Agree
      ⟨.startTag, 1, 8, "<a BAD>", some "a", [⟨"bad", ""⟩], false⟩
      ⟨.startTag, 2, 1, "<a bad=bad>", some "a", [⟨"bad", "bad"⟩], false⟩ :=
    ⟨⟨fun _ => ⟨rfl, by decide⟩, fun _ => ⟨rfl, by decide⟩⟩, fun _ => rfl, fun _ => rfl⟩
  obtain ⟨_, _, hmessages, _⟩ := messages_isolated .blockWords
    (.dict [(.str "attributeNames", .list [.str "bad"])]) .attributeNames ["bad"] rfl hpatterns _ _
    (.cons hunread (.cons hread .nil))
  exact ⟨hmessages, rfl⟩

/-- Texts that agree in their markup need not have the same messages: a text that is given the name of an
element shows it. -/
theorem text_shows_element :
    ¬ ∀ (v : Value) (patterns : List String), Schema.blockWords.read v = .ok (.only .text patterns) →
      Readable patterns → ∀ es es' : List Event,
        List.Forall₂ (fun e e' => (e.kind = .text ↔ e'.kind = .text) ∧ (e.kind = .text → e.raw = e'.raw))
          es es' →
        (playEvents (Host.empty.attach .blockWords v).1.subscriptions es).log.messages =
          (playEvents (Host.empty.attach .blockWords v).1.subscriptions es').log.messages := by
  intro h
  have hpatterns : Readable ["bad"] := readable_singleton.mpr ⟨_, rfl⟩
  have hmessages := h (.dict [(.str "text", .list [.str "bad"])]) ["bad"] rfl hpatterns
    [⟨.text, 1, 1, "bad", none, [], false⟩] [⟨.text, 1, 1, "bad", some "div", [], false⟩]
    (.cons ⟨.rfl, fun _ => rfl⟩ .nil)
  have hleft : (playEvents (Host.empty.attach .blockWords
      (.dict [(.str "text", .list [.str "bad"])])).1.subscriptions
        [⟨.text, 1, 1, "bad", none, [], false⟩]).log.messages =
      ["Blocked text word from /bad/g detected: \"bad\""] := rfl
  have hright : (playEvents (Host.empty.attach .blockWords
      (.dict [(.str "text", .list [.str "bad"])])).1.subscriptions
        [⟨.text, 1, 1, "bad", some "div", [], false⟩]).log.messages =
      ["Blocked text word from /bad/g detected in div: \"bad\""] := rfl
  rw [hleft, hright] at hmessages
  exact absurd hmessages (by decide)

end WordLint
