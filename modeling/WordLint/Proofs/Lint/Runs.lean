import WordLint.Proofs.Lint.Findings
import WordLint.Proofs.Markup.Tiling
import WordLint.Proofs.Regex.Forward
import WordLint.Proofs.Rule.Admission

/-!
# What a run of a rule reports

Options that are accepted make a rule listen, and a listener to all events hears every event of the
document in turn (`playEvents_yields`).

**The law** (`lintText_findings`): over a document that can be read to its end, with options that are
accepted and patterns that can all be read, a run comes to its end, and its log is the findings of the
events of the document, one event after the other. The orders inside are those of `eventFindings`: the
checks of an event, the attributes of a tag, the patterns of a group, and the spans of a pattern. The
last of these is the order of the text (`Regex.spans_ordered`), and the place of a diagnostic is where
its markup stands in the document (`Markup.read_tiles`).
-/

namespace WordLint

/-! ## What a document leads to -/

open Recorded

/-- The subscriptions of some listeners, each of them to all events. -/
def listening (ls : List Listener) : Subscriptions Listener :=
  ls.map (Subscriptions.allEvents, ·)

theorem listening_append (ls : List Listener) (l : Listener) :
    listening (ls ++ [l]) = (listening ls).add Subscriptions.allEvents l :=
  List.map_append

/-- Listeners to all events are called with every event, in the order in which they subscribed. -/
theorem receivers_listening (ls : List Listener) (kind : EventKind) :
    (listening ls).receivers kind = ls := by
  have hother : ¬ Subscriptions.allEvents = kind.name := by
    cases kind <;> decide
  unfold Subscriptions.receivers Subscriptions.under listening
  simp [List.filterMap_map, hother]

/-- Listeners report one after the other what each of them finds. -/
theorem hearAll_yields (e : Event) (ls : List Listener) (h : ∀ l ∈ ls, l.options.Readable) :
    Yields (hearAll e ls) () (ls.flatMap fun l => eventFindings l.rule l.options e) := by
  induction ls with
  | nil => exact .pure ()
  | cons l rest ih =>
    exact (l.hear_yields e (h l List.mem_cons_self)).bind
      (ih fun l' hmem => h l' (List.mem_cons_of_mem _ hmem))

/-- The events of a document are heard one after the other, each by all listeners. -/
theorem playEvents_listening_yields (ls : List Listener) (es : List Event)
    (h : ∀ l ∈ ls, l.options.Readable) :
    Yields (playEvents (listening ls) es) ()
      (es.flatMap fun e => ls.flatMap fun l => eventFindings l.rule l.options e) := by
  induction es with
  | nil => exact .pure ()
  | cons e rest ih =>
    have hevent : Yields (hearAll e ((listening ls).receivers e.kind)) ()
        (ls.flatMap fun l => eventFindings l.rule l.options e) := by
      rw [receivers_listening]
      exact hearAll_yields e ls h
    exact .quiet rfl (hevent.bind ih)

/-- The events of a document are heard one after the other. -/
theorem playEvents_yields (l : Listener) (es : List Event) (h : l.options.Readable) :
    Yields (playEvents (Subscriptions.add [] Subscriptions.allEvents l) es) ()
      (es.flatMap (eventFindings l.rule l.options)) := by
  have hplay : Yields (playEvents (Subscriptions.add [] Subscriptions.allEvents l) es) ()
      (es.flatMap fun e => [l].flatMap fun l => eventFindings l.rule l.options e) :=
    playEvents_listening_yields [l] es (List.forall_mem_singleton.mpr h)
  simpa only [List.flatMap_singleton] using hplay

/-- A document that can be read to its end is played to its end when its events are. -/
theorem play_of_playEvents {subscriptions : Subscriptions Listener} {html : String} {log : Log}
    (hhtml : (Markup.read html).fault = none)
    (h : Yields (playEvents subscriptions (Markup.read html).events) () log) :
    Yields (play subscriptions html) () log := by
  unfold play
  dsimp only
  rw [hhtml, ← List.append_nil log]
  exact .quiet rfl (h.bind (.pure ()))

/-- A document that can be read to its end is played to its end. -/
theorem play_yields (l : Listener) {html : String} (hhtml : (Markup.read html).fault = none)
    (h : l.options.Readable) :
    Yields (play (Subscriptions.add [] Subscriptions.allEvents l) html) ()
      ((Markup.read html).events.flatMap (eventFindings l.rule l.options)) :=
  play_of_playEvents hhtml (playEvents_yields l (Markup.read html).events h)

/-! ## Options -/

/-- Options that are accepted do not count as none. -/
theorem not_isAbsent_of_read {s : Schema} {v : Value} {o : Options} (h : s.read v = .ok o) :
    v.isAbsent = false := by
  rw [Bool.eq_false_iff, ne_eq, Value.isAbsent_iff]
  exact (Schema.read_eq_ok_iff.mp h).not_absent

/-- A value is given to a rule as it stands unless it says no more than that the rule is on or off. -/
theorem resolve_of_ne (s : Schema) {v : Value} (hon : v ≠ .bool true) (hoff : v ≠ .bool false) :
    s.resolve v = some v := by
  unfold Schema.resolve
  split
  · exact absurd rfl hoff
  · exact absurd rfl hon
  · rfl

/-- Options that are accepted are neither on nor off. -/
theorem resolve_of_read {s : Schema} {v : Value} {o : Options} (h : s.read v = .ok o) :
    s.resolve v = some v := by
  refine resolve_of_ne s ?_ ?_
  · rintro rfl
    cases h
  · rintro rfl
    cases h

/-- A rule that accepts its options listens. -/
theorem listen_yields {s : Schema} {v : Value} {o : Options} (h : s.read v = .ok o) :
    Yields (s.listen v) (some ⟨s.rule, o⟩) [] := by
  unfold Schema.listen
  rw [not_isAbsent_of_read h, h]
  exact .quiet rfl (.pure _)

/-- The rule that blocks words is found by its name. -/
theorem ruleOf?_blockWords :
    ruleOf? (.str "block-words") = some (Rule.blockWords Schema.blockWords) := by
  unfold ruleOf? findRule? catalogue
  simp only [Value.str?, Option.bind_some]
  rw [List.find?_cons_of_pos]
  rfl

/-- No other rule is found. -/
theorem eq_blockWords_of_ruleOf? {key : Value} {rule : Rule} (h : ruleOf? key = some rule) :
    rule = Rule.blockWords Schema.blockWords := by
  unfold ruleOf? findRule? catalogue at h
  obtain ⟨name, _, hfind⟩ := Option.bind_eq_some_iff.mp h
  exact List.mem_singleton.mp (List.mem_of_find?_eq_some hfind)

/-- A value of a configuration that a rule accepts, and the options it comes to: those that it denotes,
or the rule's own ones when it says no more than that the rule is on. -/
def Schema.Accepts (s : Schema) (v : Value) (o : Options) : Prop :=
  ∃ given, s.resolve v = some given ∧ s.read given = .ok o

theorem accepts_of_read {s : Schema} {v : Value} {o : Options} (h : s.read v = .ok o) : s.Accepts v o :=
  ⟨v, resolve_of_read h, h⟩

/-! ## Whole runs -/

/-- A run is read off its two halves: the rules are given their options, then the document is played. -/
theorem lintText_of_halves {html : String} {rules : List (Value × Value)}
    {subscriptions : Subscriptions Listener} {before after : Log}
    (hlisten : Yields (listenAll [] rules) subscriptions before)
    (hplay : Yields (play subscriptions html) () after) :
    Yields (lintText html rules) () (before ++ after) := by
  have hbody : Yields (lintBody html rules) () (before ++ after) := .quiet rfl (hlisten.bind hplay)
  unfold lintText
  rw [← List.append_nil (before ++ after)]
  exact hbody.bind ⟨rfl, rfl⟩

/-- The only rule of a configuration is given its options. -/
theorem listenAll_single {v given : Value} {l : Option Listener} {log : Log}
    (hresolve : Schema.blockWords.resolve v = some given)
    (hlisten : Yields (Schema.blockWords.listen given) l log) :
    Yields (listenAll [] [(.str "block-words", v)]) (subscribe [] l) log := by
  unfold listenAll
  rw [ruleOf?_blockWords, ← List.append_nil log]
  dsimp only [Rule.blockWords]
  rw [hresolve]
  exact .quiet rfl (hlisten.bind (.pure _))

/-- A run of the rule that blocks words comes to its end, with the findings of the events. -/
theorem lintText_yields {html : String} {v : Value} {o : Options}
    (hhtml : (Markup.read html).fault = none) (hv : Schema.blockWords.Accepts v o) (h : o.Readable) :
    Yields (lintText html [(.str "block-words", v)]) ()
      ((Markup.read html).events.flatMap (eventFindings "block-words" o)) := by
  obtain ⟨given, hresolve, hread⟩ := hv
  exact lintText_of_halves (listenAll_single hresolve (listen_yields hread))
    (play_yields ⟨"block-words", o⟩ hhtml h)

/-! ## The log -/

/-- **What a run reports.** The log of a run is the findings of the events of the document, one event
after the other. A pattern's spans in any text go from left to right and do not overlap. Every finding
stands where its line and its column say: its markup is not empty, and is found in the document at their
position. -/
theorem lintText_findings (html : String) (v : Value) (o : Options)
    (hhtml : (Markup.read html).fault = none) (hv : Schema.blockWords.Accepts v o) (h : o.Readable) :
    (lintText html [(.str "block-words", v)]).result = .ok () ∧
      (lintText html [(.str "block-words", v)]).log =
        (Markup.read html).events.flatMap (eventFindings "block-words" o) ∧
      (∀ (p : Pattern) (text : String),
        (p.expression.spans (searchedText text)).Pairwise (fun a b => a.2 ≤ b.1)) ∧
      ∀ d ∈ (lintText html [(.str "block-words", v)]).log, d.severity = .error ∧ d.raw ≠ "" ∧
        ∃ n, Markup.position? html.toList d.line d.col = some n ∧
          d.raw.toList <+: html.toList.drop n := by
  obtain ⟨hresult, hlog⟩ := lintText_yields hhtml hv h
  obtain ⟨front, htiles, _⟩ := Markup.read_tiles hhtml
  refine ⟨hresult, hlog, fun p text => (Regex.spans_ordered p.expression _).2, ?_⟩
  intro d hd
  rw [hlog] at hd
  obtain ⟨e, he, hd⟩ := List.mem_flatMap.mp hd
  obtain ⟨hseverity, hline, hcol, hraw⟩ := place_of_mem_eventFindings hd
  rw [hline, hcol, hraw]
  exact ⟨hseverity, htiles.raw_ne_empty e he, htiles.standing e he⟩

/-- The run that looks for one pattern in texts and for one in the values of attributes. -/
theorem lintText_findings_two_groups :
    (lintText "<B id=bad>Ad</B>" [(.str "block-words", .dict [(.str "text", .list [.str "ad"]),
        (.str "attributeValues", .list [.str "B.D"])])]).result = .ok () ∧
      (lintText "<B id=bad>Ad</B>" [(.str "block-words", .dict [(.str "text", .list [.str "ad"]),
        (.str "attributeValues", .list [.str "B.D"])])]).log =
        (Markup.read "<B id=bad>Ad</B>").events.flatMap
          (eventFindings "block-words" ⟨none, none, some ["B.D"], none, some ["ad"]⟩) ∧
      ((Markup.read "<B id=bad>Ad</B>").events.flatMap
          (eventFindings "block-words" ⟨none, none, some ["B.D"], none, some ["ad"]⟩)).map
            (fun d => (d.message, d.line, d.col, d.raw)) =
        [("Blocked attribute word from /b.d/g detected in b: \"bad\"", 1, 1, "<B id=bad>"),
          ("Blocked text word from /ad/g detected: \"ad\"", 1, 11, "Ad")] := by
  have hread : Markup.read "<B id=bad>Ad</B>" = ⟨[
      ⟨.startTag, 1, 1, "<B id=bad>", some "b", [⟨"id", "bad"⟩], false⟩,
      ⟨.text, 1, 11, "Ad", none, [], false⟩,
      ⟨.endTag, 1, 13, "</B>", some "b", [], false⟩], none⟩ := by
    cbv
  have hhtml : (Markup.read "<B id=bad>Ad</B>").fault = none := by rw [hread]
  have hv : Schema.blockWords.read (.dict [(.str "text", .list [.str "ad"]),
      (.str "attributeValues", .list [.str "B.D"])]) =
      .ok ⟨none, none, some ["B.D"], none, some ["ad"]⟩ := rfl
  have hpatterns : Options.Readable ⟨none, none, some ["B.D"], none, some ["ad"]⟩ := by
    intro g patterns hg raw hraw
    cases g <;> cases hg
    · obtain rfl := List.mem_singleton.mp hraw
      exact ⟨_, rfl⟩
    · obtain rfl := List.mem_singleton.mp hraw
      exact ⟨_, rfl⟩
  obtain ⟨hresult, hlog, _⟩ := lintText_findings _ _ _ hhtml (accepts_of_read hv) hpatterns
  refine ⟨hresult, hlog, ?_⟩
  rw [hread]
  rfl

end WordLint
