import Mathlib
import WordLint.Config.Files

/-!
# Faults of configurations

Whoever asks for a configuration is to get a dictionary, or a fault of the configuration. Text that is no
document, bytes that are no text, directories and files that are missing all are such faults.

**The law** (`settled_iff`): that holds as long as the reader of documents does not break down over the text
that it is given, and as long as the path of a file can be handed to the system. Nothing takes up what is
raised otherwise; `lone_return_escapes` is a text of one character over which the reader breaks down.
-/

namespace WordLint.Config

/-- How a configuration is to be had: a dictionary, or a fault of the configuration. -/
def Settled : Except Fault Place → Prop
  | .ok place => ∃ entries, place.value = .dict entries
  | .error (.breakdown _) => False
  | .error _ => True

/-- The reader breaks down over a text. -/
def BreaksDown (read : Toml.Reader) (text : String) : Prop :=
  ∃ b, read text = .error (.breakdown b)

/-- A file can be asked for, and the reader does not break down over its text, if it has one. -/
def Passable (read : Toml.Reader) (t : FileTree) (path : FilePath) : Prop :=
  path.unspeakable = false ∧ ∀ text, t.readText path = .ok text → ¬BreaksDown read text

variable (read : Toml.Reader)

/-- Out of any document, the rules are a dictionary; whatever else is in their place is left out of
account. -/
theorem settled_rules (project : Bool) (document : Place) :
    Settled (rules (ε := Fault) project document).result := by
  unfold rules
  split
  · exact ⟨[], rfl⟩
  · split
    · exact ⟨_, ‹_›⟩
    · exact ⟨[], rfl⟩
    · exact ⟨[], rfl⟩

theorem settled_rulesOfTextBy_iff (text : String) (project : Bool) :
    Settled (rulesOfTextBy read text project).result ↔ ¬BreaksDown read text := by
  unfold rulesOfTextBy BreaksDown
  cases read text with
  | ok entries => exact iff_of_true (settled_rules project _) (by simp)
  | error e =>
    cases e with
    | malformed => exact iff_of_true trivial (by simp)
    | breakdown b => exact iff_of_false id (by simp)

/-! ## Files -/

/-- On the way along a path, files and directories are missing or not what they should be. -/
theorem walk_ne_unspeakable (t : FileTree) (whole : String) (place : Option FilePath) (path : FilePath) :
    t.walk whole place path ≠ .error .unspeakable := by
  induction path generalizing place with
  | nil =>
    cases place with
    | none => rintro ⟨⟩
    | some directory =>
      unfold FileTree.walk
      split <;> rintro ⟨⟩
  | cons name rest ih =>
    cases place with
    | none =>
      unfold FileTree.walk
      split
      · exact ih none
      · rintro ⟨⟩
    | some directory =>
      unfold FileTree.walk
      split
      · exact ih _
      · rintro ⟨⟩
      · rintro ⟨⟩

/-- Only a path that the system cannot be asked for is refused as such. -/
theorem readText_eq_unspeakable_iff {t : FileTree} {path : FilePath} :
    t.readText path = .error .unspeakable ↔ path.unspeakable = true := by
  unfold FileTree.readText
  cases hpath : path.unspeakable with
  | true => exact iff_of_true rfl rfl
  | false =>
    refine iff_of_false ?_ Bool.false_ne_true
    cases hwalk : t.walk (t.shown path) (some []) path with
    | error e =>
      intro h
      cases h
      exact walk_ne_unspeakable t _ _ _ hwalk
    | ok entry =>
      cases entry with
      | directory => rintro ⟨⟩
      | file bytes =>
        cases hdecode : Text.decode bytes with
        | error f => simp [hdecode, Except.mapError, bind, Except.bind]
        | ok text => simp [hdecode, Except.mapError, bind, Except.bind, pure, Except.pure]

theorem settled_documentBy_iff (t : FileTree) (path : FilePath) :
    Settled (documentBy read t path) ↔ Passable read t path := by
  unfold documentBy Passable BreaksDown
  rw [Bool.eq_false_iff, ne_eq, ← readText_eq_unspeakable_iff]
  cases htext : t.readText path with
  | error e =>
    by_cases he : e = .unspeakable
    · subst he
      exact iff_of_false id fun h => h.1 rfl
    · refine iff_of_true ?_ ⟨by simpa using he, by simp⟩
      cases e <;> first | exact absurd rfl he | trivial
  | ok text =>
    cases hread : read text with
    | ok entries => exact iff_of_true (by simp [Settled, Place.root, hread]) (by simp [hread])
    | error e =>
      cases e with
      | malformed => exact iff_of_true (by simp [Settled, hread]) (by simp [hread])
      | breakdown b => exact iff_of_false (by simp [Settled, hread]) (by simp [hread])

/-- The rules of a file are to be had as its document is. -/
theorem settled_rulesOfFileBy_iff (t : FileTree) (path : FilePath) :
    Settled (rulesOfFileBy read t path).result ↔ Passable read t path := by
  rw [← settled_documentBy_iff]
  unfold rulesOfFileBy
  cases hdocument : documentBy read t path with
  | ok document =>
    refine iff_of_true (settled_rules _ document) ?_
    unfold documentBy at hdocument
    repeat' split at hdocument
    all_goals cases hdocument
    exact ⟨_, rfl⟩
  | error e => cases e <;> exact Iff.rfl

/-- **A configuration is a dictionary or a fault of its own**, out of any text and out of any file, except
where the reader breaks down or the system cannot be asked. -/
theorem settled_iff :
    (∀ text project, Settled (rulesOfTextBy read text project).result ↔ ¬BreaksDown read text) ∧
    ∀ t path, (Settled (documentBy read t path) ↔ Passable read t path) ∧
      (Settled (rulesOfFileBy read t path).result ↔ Passable read t path) :=
  ⟨settled_rulesOfTextBy_iff read,
    fun t path => ⟨settled_documentBy_iff read t path, settled_rulesOfFileBy_iff read t path⟩⟩

/-- A carriage return that nothing follows. -/
theorem lone_return_escapes :
    (rulesOfText "\r" false).result = .error (.breakdown Toml.pastEnd) ∧
      ¬Settled (rulesOfText "\r" false).result := by
  have hresult : (rulesOfText "\r" false).result = .error (.breakdown Toml.pastEnd) := rfl
  exact ⟨hresult, fun h => by rwa [hresult] at h⟩

end WordLint.Config
