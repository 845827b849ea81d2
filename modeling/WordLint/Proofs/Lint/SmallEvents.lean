import WordLint.Proofs.Lint.Stopping
import WordLint.Proofs.Text.SmallLetters

/-!
# Letter case makes no difference

Patterns are put in small letters before they are read, and texts before they are searched. So it makes no
difference to a rule whether its patterns, or the texts of an event, are in small letters from the start
(`Options.small`, `Event.small`): a small form is its own small form, and is empty for the empty text only, so
the same texts are passed over for being empty.

**The law** (`hear_small`): an event in small letters leads to the same messages, and so do patterns in small
letters, and both at once. In each case the same checks are made up to the case of their texts and patterns
(`Options.checksAt_small`, `Options.small_checksAt`), and runs that make such checks report the same up to the
case of the markup that they show (`Listener.Makes.map`).
-/

namespace WordLint

open Host (errorOf)
open Text (lower lower_lower lower_eq_empty_iff)

/-! ## Patterns and texts -/

theorem searchedText_lower (text : String) : searchedText (lower text) = searchedText text := by
  unfold searchedText
  rw [lower_lower]

theorem Pattern.compile_lower (raw : String) : Pattern.compile (lower raw) = Pattern.compile raw := by
  unfold Pattern.compile
  rw [lower_lower]

theorem refusal?_lower (raw : String) : refusal? (lower raw) = refusal? raw := by
  unfold refusal?
  rw [Pattern.compile_lower]

/-! ## Small forms -/

/-- An attribute in small letters. -/
def Attribute.small (a : Attribute) : Attribute :=
  ⟨lower a.name, lower a.value⟩

/-- An event with all its texts in small letters. -/
def Event.small (e : Event) : Event :=
  { e with
    raw := lower e.raw
    element := e.element.map lower
    attributes := e.attributes.map Attribute.small }

/-- Options with all patterns in small letters. -/
def Options.small (o : Options) : Options :=
  .ofGroups fun g => (o.get g).map (·.map lower)

/-- The listener with all patterns in small letters. -/
def Listener.small (l : Listener) : Listener :=
  { l with options := l.options.small }

/-- The check of the text in small letters. -/
def Check.withSmallText (c : Check) : Check :=
  { c with text := lower c.text }

/-- The check with its patterns in small letters. -/
def Check.withSmallPatterns (c : Check) : Check :=
  { c with patterns := c.patterns.map lower }

/-- The diagnostic with its markup in small letters. -/
def Diagnostic.withSmallMarkup (d : Diagnostic) : Diagnostic :=
  { d with raw := lower d.raw }

/-! ## The checks that are made -/

theorem checkOf_lower (patterns : Option (List String)) (text : String) (category : Option Category) :
    checkOf patterns (lower text) category = (checkOf patterns text category).map Check.withSmallText := by
  cases patterns with
  | none => rfl
  | some ps => rfl

theorem checkOf_map_lower (patterns : Option (List String)) (text : String) (category : Option Category) :
    checkOf (patterns.map (·.map lower)) text category =
      (checkOf patterns text category).map Check.withSmallPatterns := by
  cases patterns with
  | none => rfl
  | some ps => rfl

/-- An event in small letters is given the same checks, of the small forms: what is empty in small letters was
empty before. -/
theorem Options.checksAt_small (o : Options) (e : Event) :
    o.checksAt e.small = (o.checksAt e).map Check.withSmallText := by
  have hname : e.small.element.getD "" = lower (e.element.getD "") := by
    cases h : e.element with
    | none => simp [Event.small, h, lower_eq_empty_iff.mpr]
    | some name => simp [Event.small, h]
  have hkind : e.small.kind = e.kind := rfl
  have hraw : e.small.raw = lower e.raw := rfl
  have hattributes : e.small.attributes = e.attributes.map Attribute.small := rfl
  unfold checksAt
  simp only [hname, hkind, hraw, hattributes, ne_eq, lower_eq_empty_iff, List.map_append,
    apply_ite (List.map Check.withSmallText), List.map_nil, ← checkOf_lower, List.map_flatMap,
    List.flatMap_map, Attribute.small]

/-- Options in small letters give an event the same checks, with the small forms of the patterns. -/
theorem Options.small_checksAt (o : Options) (e : Event) :
    o.small.checksAt e = (o.checksAt e).map Check.withSmallPatterns := by
  unfold checksAt
  simp only [List.map_append, apply_ite (List.map Check.withSmallPatterns), List.map_nil,
    ← checkOf_map_lower, List.map_flatMap]
  rfl

/-! ## What the checks report -/

theorem Check.refusal?_withSmallPatterns (c : Check) : c.withSmallPatterns.refusal? = c.refusal? := by
  unfold refusal? withSmallPatterns
  rw [List.findSome?_map]
  simp only [Function.comp_def, refusal?_lower]

/-- The findings of an event in small letters show its markup in small letters, and nothing else changes: the
element was shown in small letters all along. -/
theorem findingOf_small (rule : String) (e : Event) (category : Option Category) (p : Pattern)
    (word : String) :
    findingOf rule e.small category p word = (findingOf rule e category p word).withSmallMarkup := by
  have helement : e.small.element.map lower = e.element.map lower := by
    unfold Event.small
    rw [Option.map_map]
    exact congrArg (Option.map · e.element) (funext lower_lower)
  unfold findingOf
  rw [helement]
  rfl

theorem patternFindings_small (rule : String) (e : Event) (category : Option Category)
    (text raw : String) :
    patternFindings rule e.small category (lower text) raw =
      (patternFindings rule e category text raw).map Diagnostic.withSmallMarkup := by
  unfold patternFindings
  rw [searchedText_lower]
  cases Pattern.compile raw with
  | error f => rfl
  | ok p =>
    dsimp only
    rw [List.map_map]
    exact List.map_congr_left fun span _ => findingOf_small ..

theorem patternFindings_lower (rule : String) (e : Event) (category : Option Category)
    (text raw : String) :
    patternFindings rule e category text (lower raw) = patternFindings rule e category text raw := by
  unfold patternFindings
  rw [Pattern.compile_lower]

namespace Listener

variable {l l' : Listener} {checks : List (Event × Check)} {r r' : Run Unit}

theorem checkFindings_withSmallText (l : Listener) (e : Event) (c : Check) :
    l.checkFindings e.small c.withSmallText =
      (l.checkFindings e c).map Diagnostic.withSmallMarkup := by
  unfold checkFindings groupFindings
  rw [List.map_flatMap]
  exact List.flatMap_congr fun raw _ => patternFindings_small ..

theorem checkFindings_withSmallPatterns (l : Listener) (e : Event) (c : Check) :
    l.small.checkFindings e c.withSmallPatterns = l.checkFindings e c := by
  unfold checkFindings groupFindings Check.withSmallPatterns
  rw [Option.getD_some, Option.getD_some, List.flatMap_map]
  exact List.flatMap_congr fun raw _ => patternFindings_lower ..

/-- Runs that make checks with the same refusals, and with findings that correspond, stop alike and report what
corresponds. -/
theorem Makes.map {f : Event × Check → Event × Check} {g : Diagnostic → Diagnostic}
    (h : l.Makes checks r) (h' : l'.Makes (checks.map f) r')
    (hrefusal : ∀ x, (f x).2.refusal? = x.2.refusal?)
    (hfindings : ∀ x, l'.checkFindings (f x).1 (f x).2 = (l.checkFindings x.1 x.2).map g) :
    errorOf r' = errorOf r ∧ r'.log = r.log.map g := by
  constructor
  · rw [h'.error, h.error, List.findSome?_map]
    simp only [Function.comp_def, hrefusal]
  · rw [h'.log, h.log, List.takeWhile_map, List.flatMap_map, List.map_flatMap]
    simp only [Function.comp_def, hrefusal, hfindings]

/-- An event in small letters: the run stops alike, and its log shows the markup in small letters. -/
theorem log_hear_small (l : Listener) (e : Event) :
    errorOf (l.hear e.small) = errorOf (l.hear e) ∧
      (l.hear e.small).log = (l.hear e).log.map Diagnostic.withSmallMarkup := by
  have hsmall := l.makes_hear e.small
  rw [Options.checksAt_small, List.map_map] at hsmall
  refine (l.makes_hear e).map (f := fun x => (x.1.small, x.2.withSmallText)) ?_ (fun _ => rfl)
    fun x => l.checkFindings_withSmallText x.1 x.2
  rwa [List.map_map]

/-- Patterns in small letters: the run stops alike and has the same log. -/
theorem log_small_hear (l : Listener) (e : Event) :
    errorOf (l.small.hear e) = errorOf (l.hear e) ∧ (l.small.hear e).log = (l.hear e).log := by
  have hsmall := l.small.makes_hear e
  rw [show l.small.options = l.options.small from rfl, Options.small_checksAt, List.map_map] at hsmall
  have hsame := (l.makes_hear e).map (f := fun x => (x.1, x.2.withSmallPatterns)) (g := id)
    (by rwa [List.map_map]) (fun x => x.2.refusal?_withSmallPatterns)
    fun x => (l.checkFindings_withSmallPatterns x.1 x.2).trans (List.map_id _).symm
  rwa [List.map_id] at hsame

/-- To put the texts of checks in small letters once more changes nothing about a run, steps and all. -/
theorem runChecks_withSmallText (l : Listener) (e : Event) (checks : List Check) :
    l.runChecks e (checks.map Check.withSmallText) = l.runChecks e checks := by
  induction checks with
  | nil => rfl
  | cons c rest ih =>
    have hcheck : l.runCheck e c.withSmallText = l.runCheck e c := by
      unfold runCheck Check.withSmallText
      rw [searchedText_lower]
    rw [List.map_cons, runChecks, runChecks, ih, hcheck]

end Listener

/-! ## The law -/

/-- Runs without an error come to the same, and others stop at their error. -/
theorem result_eq_of_errorOf_eq {r r' : Run Unit} (h : errorOf r = errorOf r') : r.result = r'.result := by
  cases herror : errorOf r' with
  | none => rw [result_eq_ok_iff.mpr herror, result_eq_ok_iff.mpr (h.trans herror)]
  | some error => rw [result_eq_error_iff.mpr herror, result_eq_error_iff.mpr (h.trans herror)]

/-- Two runs that cannot be told apart by their messages: they come to the same, or stop at the same error, and
have reported the same messages in the same order. -/
structure SameMessages (r r' : Run Unit) : Prop where
  result : r.result = r'.result
  messages : r.log.messages = r'.log.messages

theorem messages_withSmallMarkup (log : Log) :
    Log.messages (log.map Diagnostic.withSmallMarkup) = log.messages := by
  unfold Log.messages
  rw [List.map_map]
  rfl

/-- **Letter case makes no difference.** For every listener and every event, the messages are the same when the
markup, the name of the element, and the names and values of the attributes are in small letters, when all
patterns are, and when both are. If all patterns can be read, the run comes to its end in all these cases, and the
messages are those of the findings of the event; else it stops at the same refusal. In particular, to put the text
of each check in small letters once more changes nothing at all, since for every text the small form is its own
small form, and is empty for the empty text only. -/
theorem hear_small (l : Listener) (e : Event) :
    (l.options.Readable →
      (l.hear e).result = .ok () ∧ (l.hear e).log = eventFindings l.rule l.options e) ∧
    SameMessages (l.hear e.small) (l.hear e) ∧
    SameMessages (l.small.hear e) (l.hear e) ∧
    SameMessages (l.small.hear e.small) (l.hear e) ∧
    l.runChecks e ((l.checks e).map Check.withSmallText) = l.hear e ∧
    ∀ text, lower (lower text) = lower text ∧ (lower text = "" ↔ text = "") := by
  have hevent : SameMessages (l.hear e.small) (l.hear e) := by
    obtain ⟨herror, hlog⟩ := l.log_hear_small e
    exact ⟨result_eq_of_errorOf_eq herror, by rw [hlog, messages_withSmallMarkup]⟩
  have hpatterns : ∀ e, SameMessages (l.small.hear e) (l.hear e) := by
    intro e
    obtain ⟨herror, hlog⟩ := l.log_small_hear e
    exact ⟨result_eq_of_errorOf_eq herror, by rw [hlog]⟩
  refine ⟨fun hreadable => ?_, hevent, hpatterns e, ⟨?_, ?_⟩, l.runChecks_withSmallText e _,
    fun text => ⟨lower_lower text, lower_eq_empty_iff⟩⟩
  · have hfindings := l.hear_yields e hreadable
    exact ⟨hfindings.result, hfindings.log⟩
  · exact (hpatterns e.small).result.trans hevent.result
  · exact (hpatterns e.small).messages.trans hevent.messages

end WordLint
