import WordLint.Proofs.Lint.Steps
import WordLint.Trace.Note

/-!
# How notes begin

The note of a step begins with words that say what kind of step it is (`Step.opening`), or with the name of the
rule that speaks in it. Since only the rule that blocks words does (`usual_runSteps`), notes of different kinds
begin differently, and the first words of a note are enough to tell what it is about.
-/

namespace WordLint

/-- The name of a rule that the note of a step begins with. -/
def Step.speaker? : Step → Option String
  | .unset rule | .refused rule | .listening rule _ | .finding rule _ _ => some rule
  | _ => none

/-- No rule speaks but the one that blocks words. -/
def Step.Usual (s : Step) : Prop :=
  ∀ rule, s.speaker? = some rule → rule = "block-words"

theorem Step.Usual.unspoken {s : Step} (h : s.speaker? = none) : s.Usual := by
  intro rule hrule
  rw [h] at hrule
  cases hrule

theorem Step.Usual.spoken {s : Step} {rule : String} (h : s.speaker? = some rule) (hrule : rule = "block-words") :
    s.Usual := by
  intro rule' hrule'
  rw [h] at hrule'
  cases hrule'
  exact hrule

/-- The words that the note of a step begins with. -/
def Step.opening : Step → String
  | .linting _ => "Linting "
  | .disabled _ => "Rule "
  | .initializing _ => "Initializing rule "
  | .unset _ | .refused _ | .listening _ _ => "block-words: "
  | .objection _ (.notMapping _) => "Options for "
  | .objection _ (.unknownKey _) => "Unknown option key for "
  | .objection _ (.notStrings _) => "Option "
  | .reading _ _ => "Parsing "
  | .event _ => "Event "
  | .pattern _ => "Compiling blocked pattern "
  | .finding _ _ _ => "block-words at "
  | .reported _ => "Adding ["
  | .finished _ => "Lint finished with "
  | .rulesIgnored _ => "Ignoring [rules]: expected a table, got "

/-- A text begins with some words. -/
def Opens (opening text : String) : Prop :=
  opening.toList <+: text.toList

namespace Opens

instance (opening text : String) : Decidable (Opens opening text) :=
  inferInstanceAs (Decidable (_ <+: _))

theorem refl (text : String) : Opens text text := List.prefix_rfl

/-- A text begins as its first part does. -/
theorem append {opening a : String} (h : Opens opening a) (b : String) : Opens opening (a ++ b) := by
  unfold Opens
  rw [String.toList_append]
  exact h.trans (List.prefix_append _ _)

/-- A text begins only in ways of which one begins the other. -/
theorem comparable {opening opening' text : String} (h : Opens opening text) (h' : Opens opening' text) :
    Opens opening opening' ∨ Opens opening' opening :=
  List.prefix_or_prefix_of_prefix h h'

end Opens

/-- All the words that notes begin with. -/
def Step.openings : List String :=
  ["Linting ", "Rule ", "Initializing rule ", "block-words: ", "Options for ", "Unknown option key for ", "Option ",
    "Parsing ", "Event ", "Compiling blocked pattern ", "block-words at ", "Adding [", "Lint finished with ",
    "Ignoring [rules]: expected a table, got "]

theorem Step.opening_mem (s : Step) : s.opening ∈ openings := by
  cases s with
  | objection rule o =>
    cases o <;> simp [opening, openings]
  | _ => simp [opening, openings]

/-- None of them begins another one. -/
theorem Step.openings_apart : ∀ a ∈ openings, ∀ b ∈ openings, Opens a b → a = b := by
  decide

namespace Note

/-- A note begins with some words. -/
def opensWith (opening : String) (n : Note) : Bool :=
  opening.toList.isPrefixOf n.text.toList

theorem opensWith_iff {opening : String} {n : Note} : n.opensWith opening = true ↔ Opens opening n.text :=
  List.isPrefixOf_iff_prefix

/-- A note with a shown value begins as its wording does. -/
theorem opens_of_showing {level : Level} {v : Value} {text : String → String} {opening : String}
    (h : ∀ shown, Opens opening (text shown)) {n : Note} (hn : n ∈ showing level v text) :
    Opens opening n.text := by
  unfold showing at hn
  split at hn
  · cases hn
    exact h _
  · cases hn

/-- The note of a step begins with the words for its kind. -/
theorem opens_of_mem {s : Step} (hs : s.Usual) {n : Note} (h : n ∈ ofStep s) : Opens s.opening n.text := by
  cases s with
  | pattern raw => cases h
  | linting k | disabled rule | initializing rule | reading k lines | event e | reported d | finished k =>
    cases h
    dsimp only [ofDiagnostic]
    repeat with_reducible refine Opens.append ?_ _
    exact .refl _
  | unset rule | refused rule | listening rule groups | finding rule e message =>
    -- the name of the rule comes first
    cases h
    dsimp only [Step.opening]
    rw [hs rule rfl]
    repeat first | decide | with_reducible refine Opens.append ?_ _
  | objection rule o =>
    cases o with
    | notMapping type =>
      cases h
      repeat with_reducible refine Opens.append ?_ _
      exact .refl _
    | unknownKey key | notStrings key =>
      refine opens_of_showing (fun shown => ?_) h
      repeat with_reducible refine Opens.append ?_ _
      exact .refl _
  | rulesIgnored v =>
    refine opens_of_showing (fun shown => ?_) h
    repeat with_reducible refine Opens.append ?_ _
    exact .refl _

/-- So does the one about a pattern that has to be read. -/
theorem opens_of_mem_notesFrom {c : PatternCache} {s : Step} (hs : s.Usual) {n : Note} (h : n ∈ notesFrom c [s]) :
    Opens s.opening n.text := by
  cases s with
  | pattern raw =>
    simp only [notesFrom, List.append_nil] at h
    split at h
    · obtain rfl := List.mem_singleton.mp h
      exact (Opens.refl _).append _
    · cases h
  | _ =>
    simp only [notesFrom, List.append_nil, Option.mem_toList] at h
    exact opens_of_mem hs h

/-- A note does not begin with the words for another kind than its own. -/
theorem not_opensWith {s : Step} {n : Note} (h : Opens s.opening n.text) {opening : String}
    (hopening : opening ∈ Step.openings) (hne : s.opening ≠ opening) : n.opensWith opening = false := by
  rw [Bool.eq_false_iff, ne_eq, opensWith_iff]
  intro hopens
  obtain h' | h' := h.comparable hopens
  · exact hne (Step.openings_apart _ s.opening_mem _ hopening h')
  · exact hne (Step.openings_apart _ hopening _ s.opening_mem h').symm

end Note

/-! ## Who speaks in a run -/

theorem Listener.usual_checkSteps {l : Listener} (hl : l.rule = "block-words") (e : Event) (c : Check) :
    ∀ s ∈ l.checkSteps e c, s.Usual := by
  refine List.forall_mem_append.mpr ⟨fun s hs => ?_, List.forall_mem_flatMap.mpr fun f hf => ?_⟩
  · obtain ⟨raw, _, rfl⟩ := List.mem_map.mp hs
    exact .unspoken rfl
  · obtain ⟨o, _, rfl⟩ := List.mem_map.mp hf
    exact List.forall_mem_cons.mpr ⟨.spoken rfl hl, List.forall_mem_singleton.mpr (.unspoken rfl)⟩

theorem usual_playSteps {ls : List Listener} (hls : ∀ l ∈ ls, l.rule = "block-words") (html : String) :
    ∀ s ∈ playSteps ls html, s.Usual := by
  refine List.forall_mem_cons.mpr ⟨.unspoken rfl, List.forall_mem_flatMap.mpr fun e _ => ?_⟩
  refine List.forall_mem_cons.mpr ⟨.unspoken rfl, List.forall_mem_flatMap.mpr fun l hl => ?_⟩
  exact List.forall_mem_flatMap.mpr fun c _ => Listener.usual_checkSteps (hls l hl) e c

theorem Schema.usual_listenSteps {s : Schema} (hs : s.rule = "block-words") (v : Value) :
    ∀ step ∈ s.listenSteps v, step.Usual := by
  unfold listenSteps
  split
  · exact List.forall_mem_singleton.mpr (.spoken rfl hs)
  · cases s.read v with
    | ok options => exact List.forall_mem_singleton.mpr (.spoken rfl hs)
    | error o =>
      refine List.forall_mem_cons.mpr ⟨.unspoken rfl, List.forall_mem_cons.mpr ⟨.spoken rfl hs, fun step h => ?_⟩⟩
      obtain ⟨d, _, rfl⟩ := List.mem_map.mp h
      exact .unspoken rfl

theorem usual_entrySteps (entry : Value × Value) : ∀ s ∈ entrySteps entry, s.Usual := by
  unfold entrySteps
  split
  · exact fun s hs => absurd hs List.not_mem_nil
  next rule hrule =>
    obtain rfl := eq_blockWords_of_ruleOf? hrule
    split
    · exact List.forall_mem_singleton.mpr (.unspoken rfl)
    · exact List.forall_mem_cons.mpr ⟨.unspoken rfl, Schema.usual_listenSteps (s := Schema.blockWords) rfl _⟩

/-- The listeners of a configuration are those of the rule that blocks words. -/
theorem rule_of_listener {rules : List (Value × Value)} :
    ∀ l ∈ rules.filterMap entryListener?, l.rule = "block-words" := by
  intro l hl
  obtain ⟨entry, _, hentry⟩ := List.mem_filterMap.mp hl
  exact rule_of_entryListener? hentry

/-- **No rule speaks in a run** but the one that blocks words. -/
theorem usual_runSteps (html : String) (rules : List (Value × Value)) :
    ∀ s ∈ runSteps html rules, s.Usual := by
  refine List.forall_mem_append.mpr ⟨List.forall_mem_cons.mpr ⟨.unspoken rfl, ?_⟩,
    List.forall_mem_singleton.mpr (.unspoken rfl)⟩
  exact List.forall_mem_append.mpr
    ⟨List.forall_mem_flatMap.mpr fun entry _ => usual_entrySteps entry, usual_playSteps rule_of_listener html⟩

end WordLint
