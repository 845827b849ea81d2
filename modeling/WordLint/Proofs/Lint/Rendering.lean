import WordLint.Proofs.Lint.Steps
import WordLint.Proofs.Markup.ElementName
import WordLint.Proofs.Pattern.Delimiting
import WordLint.Proofs.Value.OneLine

/-!
# Diagnostics on one line

A diagnostic is rendered with its place, its severity, its message and its rule. All but the message are on one
line, and colours do not change that as long as they add no line breaks (`Paint.KeepsLines`). The message about
options that are refused is on one line, because the options are serialized. The message about a word shows the
pattern between slashes, where line breaks are escaped, and the name of an element, which has none; but the word is
shown as it stands in the text.

**The law** (`render_oneLine_iff_word`): in the log of a run that comes to its end, the refusals are on one line, and
a finding is on one line exactly when the word that was found is. A pattern can well find a line break
(`word_breaks_line`).
-/

namespace WordLint

/-! ## The rendering of a diagnostic -/

namespace Style

@[simp] theorem control_oneLine (code : ℕ) : OneLine (control code) := by
  simp [control]

@[simp] theorem opening_oneLine (s : Style) : OneLine s.opening :=
  .flatMap fun c _ => control_oneLine c.1

@[simp] theorem closing_oneLine (s : Style) : OneLine s.closing :=
  .flatMap fun c _ => control_oneLine c.2

/-- A style adds nothing inside a line. -/
theorem body_of_oneLine (s : Style) {cs : List Char} (h : OneLine cs) : s.body cs = cs := by
  induction cs with
  | nil => rfl
  | cons c cs ih =>
    obtain ⟨⟨hfeed, hreturn⟩, hcs⟩ := OneLine.cons_iff.mp h
    rw [body, if_neg hfeed, ih hcs]
    rintro rest rfl _
    exact absurd rfl hreturn

end Style

/-- A text on one line stays on one line when it is put into a style. -/
def Paint.KeepsLines (paint : Paint) : Prop :=
  ∀ s text, OneLine text.toList → OneLine (paint s text).toList

theorem Paint.terminal_keepsLines (coloured : Bool) : (Paint.terminal coloured).KeepsLines := by
  intro s text h
  unfold terminal
  split
  · simp [s.body_of_oneLine h, h]
  · exact h

/-- A diagnostic is on one line when its message is, with colours and without. -/
theorem Diagnostic.render_oneLine (d : Diagnostic) (hrule : OneLine d.rule.toList) {paint : Paint} {coloured : Bool}
    (hpaint : coloured = true → paint.KeepsLines) :
    OneLine (d.render paint coloured).toList ↔ OneLine d.message.toList := by
  have htag : OneLine ("[" ++ d.severity.name ++ "]").toList := by
    cases d.severity <;> simp [Severity.name]
  have hstyled : OneLine (if coloured then paint d.severity.style ("[" ++ d.severity.name ++ "]")
      else "[" ++ d.severity.name ++ "]").toList := by
    split
    · rename_i hcoloured
      exact hpaint hcoloured _ _ htag
    · exact htag
  unfold render
  simp [hrule, hstyled]

/-! ## The messages -/

/-- The slash form of a pattern has its line breaks escaped. -/
theorem Pattern.render_oneLine (p : Pattern) : OneLine p.render.toList := by
  unfold Pattern.render
  rw [SlashForm.toList_render]
  have hsource : OneLine (SlashForm.escapeSource p.source.toList) := by
    intro c hc
    have hnot := SlashForm.notMem_escapeSource p.source.toList c hc
    constructor <;> rintro rfl <;> exact hnot (by decide)
  simp [hsource]

/-- The message about a word shows the word as it is. -/
theorem blockedWordMessage_oneLine {word pattern : String} {element : Option String} (category : Option Category)
    (hpattern : OneLine pattern.toList) (helement : ∀ name ∈ element, OneLine name.toList) :
    OneLine (blockedWordMessage word pattern element category).toList ↔ OneLine word.toList := by
  have hkind : ∀ c : Category, OneLine c.name.toList := by
    intro c
    cases c <;> simp [Category.name]
  unfold blockedWordMessage
  cases element with
  | none => cases category <;> simp [hpattern, hkind]
  | some name =>
    have hname := helement name rfl
    cases category <;> by_cases hempty : name.isEmpty = true <;> simp [hpattern, hkind, hname, hempty]

/-- The message about options that are refused shows them serialized. -/
theorem Schema.refusal_oneLine {s : Schema} (hrule : OneLine s.rule.toList) (hkeys : ∀ key ∈ s.keys, OneLine key.toList)
    {v : Value} {message : String} (h : s.refusal v = .ok message) : OneLine message.toList := by
  unfold refusal at h
  obtain ⟨shown, hshown, h⟩ := exists_of_bind_eq_ok h
  cases h
  have hlist : OneLine ([',', ' '].intercalate (s.keys.map String.toList)) :=
    .intercalate (by simp) (List.forall_mem_map.mpr hkeys)
  simp [hrule, hlist, Value.serialize_oneLine hshown]

/-! ## The log of a run -/

variable {paint : Paint} {coloured : Bool}

/-- A refusal is on one line. -/
theorem entryRefusal?_oneLine {entry : Value × Value} {d : Diagnostic} (h : entryRefusal? entry = some d)
    (hpaint : coloured = true → paint.KeepsLines) : OneLine (d.render paint coloured).toList := by
  obtain ⟨v, message, hmessage, rfl⟩ := refusal_of_entryRefusal? h
  have hrule : OneLine Schema.blockWords.rule.toList := by simp [Schema.blockWords]
  have hkeys : ∀ key ∈ Schema.blockWords.keys, OneLine key.toList := by
    refine List.forall_mem_map.mpr fun g _ => ?_
    cases g <;> simp [Group.key]
  exact (Diagnostic.render_oneLine _ hrule hpaint).mpr (Schema.refusal_oneLine hrule hkeys hmessage)

/-- A finding in an event of a document is on one line when the word is. -/
theorem Found.diagnostic_oneLine {f : Found} (hrule : OneLine f.listener.rule.toList) {html : String}
    (hevent : f.event ∈ (Markup.read html).events) (hpaint : coloured = true → paint.KeepsLines) :
    OneLine (f.diagnostic.render paint coloured).toList ↔ OneLine f.occurrence.text.toList := by
  refine (Diagnostic.render_oneLine f.diagnostic hrule hpaint).trans ?_
  refine blockedWordMessage_oneLine f.category f.occurrence.pattern.render_oneLine fun name hname => ?_
  obtain ⟨element, helement, rfl⟩ := Option.map_eq_some_iff.mp hname
  exact Text.lower_oneLine (Markup.element_oneLine hevent helement)

/-- What is found is found by a listener in an event. -/
theorem mem_found {html : String} {rules : List (Value × Value)} {f : Found} (h : f ∈ found html rules) :
    f.event ∈ (Markup.read html).events ∧ f.listener ∈ rules.filterMap entryListener? := by
  obtain ⟨e, he, h⟩ := List.mem_flatMap.mp h
  obtain ⟨l, hl, h⟩ := List.mem_flatMap.mp h
  obtain ⟨c, _, h⟩ := List.mem_flatMap.mp h
  obtain ⟨o, _, rfl⟩ := List.mem_map.mp h
  exact ⟨he, hl⟩

/-- **The log of a run that comes to its end**, rendered without colours or with colours that keep lines: the refusals
are on one line, and the finding about a word is on one line exactly when the word is. -/
theorem render_oneLine_iff_word {html : String} {rules : List (Value × Value)}
    (h : (lintText html rules).result = .ok ()) :
    (lintText html rules).log = rules.filterMap entryRefusal? ++ (found html rules).map Found.diagnostic ∧
      ∀ (paint : Paint) (coloured : Bool), (coloured = true → paint.KeepsLines) →
        (∀ d ∈ rules.filterMap entryRefusal?, OneLine (d.render paint coloured).toList) ∧
        ∀ f ∈ found html rules,
          (OneLine (f.diagnostic.render paint coloured).toList ↔ OneLine f.occurrence.text.toList) := by
  refine ⟨log_lintText_found h, fun paint coloured hpaint => ⟨fun d hd => ?_, fun f hf => ?_⟩⟩
  · obtain ⟨entry, _, hentry⟩ := List.mem_filterMap.mp hd
    exact entryRefusal?_oneLine hentry hpaint
  · obtain ⟨hevent, hlistener⟩ := mem_found hf
    obtain ⟨entry, _, hentry⟩ := List.mem_filterMap.mp hlistener
    have hrule : OneLine f.listener.rule.toList := by simp [rule_of_entryListener? hentry]
    exact f.diagnostic_oneLine hrule hevent hpaint

/-- A word with a line break in it, and one without: the first finding takes two lines. -/
theorem render_oneLine_iff_word_twice :
    let rules : List (Value × Value) := [(.str "block-words", .dict [(.str "text", .list [.str "a\\sb", .str "b"])])]
    (lintText "a\nb" rules).result = .ok () ∧
      (found "a\nb" rules).map (·.occurrence.text) = ["a\nb", "b"] ∧
      ∀ f ∈ found "a\nb" rules,
        (OneLine (f.diagnostic.render (.terminal true) true).toList ↔ OneLine f.occurrence.text.toList) := by
  intro rules
  have hresult : (lintText "a\nb" rules).result = .ok () := by decide +kernel
  have hlines := (render_oneLine_iff_word hresult).2 (.terminal true) true fun _ => Paint.terminal_keepsLines true
  exact ⟨hresult, by decide +kernel, hlines.2⟩

/-- **The word breaks the line**: a pattern for two letters with a blank between them, in a text where the blank is
a line break. -/
theorem word_breaks_line :
    let rules : List (Value × Value) := [(.str "block-words", .dict [(.str "text", .list [.str "a\\sb"])])]
    (lintText "a\nb" rules).result = .ok () ∧
      (lintText "a\nb" rules).log.map (·.render (.terminal false) false) =
        ["1:1 [error] Blocked text word from /a\\sb/g detected: \"a\nb\" (block-words)"] ∧
      ∃ d ∈ (lintText "a\nb" rules).log, '\n' ∈ (d.render (.terminal false) false).toList := by
  decide +kernel

end WordLint
