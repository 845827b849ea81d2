import WordLint.Lint.Host
import WordLint.Proofs.Lint.Runs
import WordLint.Proofs.Rule.Admission
import WordLint.Proofs.Value.Shown

/-!
# What becomes of the options that a rule is given

A rule that is given a value does one of three things to its host: nothing at all, one new listener to all
events, or one new diagnostic without a place. Which one is decided by the kind of the value
(`Value.Absent`, `Schema.Admits`).

**The law** (`attach_outcome`): each of the three things is done exactly for its own kind of values, with
none left out and none in two kinds; and a run over a document shows the same when the value is all that is
configured. It assumes that the integers inside the value are short, and needs that only for a value that is
refused: the message about it shows the value, and that has to succeed (`refusal_of_isShort`).
-/

namespace WordLint

open Recorded

/-! ## The three things -/

/-- The message about a value can be written when all integers inside it are short. -/
theorem refusal_of_isShort (s : Schema) {v : Value} (h : v.isShort = true) :
    ∃ message, s.refusal v = .ok message := by
  obtain ⟨shown, hshown⟩ := Value.serialize_of_isShort h
  unfold Schema.refusal
  rw [hshown]
  exact ⟨_, rfl⟩

/-- A rule that is given no options does nothing. -/
theorem listen_absent_yields (s : Schema) {v : Value} (h : v.Absent) :
    Yields (s.listen v) Option.none [] := by
  unfold Schema.listen
  rw [Value.isAbsent_iff.mpr h]
  exact .quiet rfl (.pure _)

/-- A rule that refuses its options reports that, and does not listen. -/
theorem listen_refused_yields {s : Schema} {v : Value} {message : String} (habsent : ¬ v.Absent)
    (hrefused : ∀ o, ¬ s.Admits v o) (hmessage : s.refusal v = .ok message) :
    Yields (s.listen v) Option.none [refusalDiagnostic s message] := by
  obtain ⟨objection, hobjection⟩ := Schema.exists_objection hrefused
  unfold Schema.listen
  rw [if_neg (mt Value.isAbsent_iff.mp habsent), hobjection]
  have hshown : Yields (Recorded.ofExcept LintError.numeral (s.refusal v)) message [] :=
    .ofExcept LintError.numeral hmessage
  exact .quiet rfl (.quiet rfl (hshown.bind ((Yields.reported _).bind (.pure _))))

/-- What a rule does when it is given options is what its host has afterwards. -/
theorem attach_of_yields (h : Host) {s : Schema} {v : Value} {l : Option Listener} {log : Log}
    (hlisten : Yields (s.listen v) l log) :
    h.attach s v = (⟨subscribe h.subscriptions l, h.log ++ log⟩, Option.none) := by
  unfold Host.attach Host.errorOf
  dsimp only
  rw [hlisten.result, hlisten.log]

theorem attach_absent (h : Host) (s : Schema) {v : Value} (hv : v.Absent) :
    h.attach s v = (h, Option.none) := by
  rw [attach_of_yields h (listen_absent_yields s hv), List.append_nil]
  rfl

theorem attach_admitted (h : Host) {s : Schema} {v : Value} {o : Options} (hv : s.Admits v o) :
    h.attach s v =
      (⟨h.subscriptions.add Subscriptions.allEvents ⟨s.rule, o⟩, h.log⟩, Option.none) := by
  rw [attach_of_yields h (listen_yields (Schema.read_eq_ok_iff.mpr hv)), List.append_nil]
  rfl

theorem attach_refused (h : Host) {s : Schema} {v : Value} (hshort : v.isShort = true)
    (habsent : ¬ v.Absent) (hrefused : ∀ o, ¬ s.Admits v o) :
    ∃ message, s.refusal v = .ok message ∧
      h.attach s v =
        (⟨h.subscriptions, h.log ++ [⟨.error, message, 1, 1, s.rule, ""⟩]⟩, Option.none) := by
  obtain ⟨message, hmessage⟩ := refusal_of_isShort s hshort
  exact ⟨message, hmessage, attach_of_yields h (listen_refused_yields habsent hrefused hmessage)⟩

/-- A value is of one of three kinds. -/
theorem value_cases (s : Schema) (v : Value) :
    v.Absent ∨ (∃ o, s.Admits v o) ∨ ¬ v.Absent ∧ ∀ o, ¬ s.Admits v o := by
  by_cases habsent : v.Absent
  · exact .inl habsent
  · by_cases hadmits : ∃ o, s.Admits v o
    · exact .inr (.inl hadmits)
    · exact .inr (.inr ⟨habsent, not_exists.mp hadmits⟩)

/-! ## Each thing for its own kind

The three things differ in the subscriptions or in the log of the host, so a host that shows one of them
shows neither of the others. -/

theorem add_ne_self (subscriptions : Subscriptions Listener) (name : String) (l : Listener) :
    subscriptions.add name l ≠ subscriptions := by
  unfold Subscriptions.add
  simp

theorem attach_eq_self_iff (h : Host) (s : Schema) {v : Value} (hshort : v.isShort = true) :
    h.attach s v = (h, Option.none) ↔ v.Absent := by
  refine ⟨fun heq => ?_, attach_absent h s⟩
  rcases value_cases s v with habsent | ⟨o, hadmits⟩ | ⟨habsent, hrefused⟩
  · exact habsent
  · rw [attach_admitted h hadmits] at heq
    exact absurd (congrArg (·.1.subscriptions) heq) (add_ne_self _ _ _)
  · obtain ⟨message, _, hattach⟩ := attach_refused h hshort habsent hrefused
    rw [hattach] at heq
    exact absurd (congrArg (·.1.log) heq) (by simp)

theorem attach_eq_listening_iff (h : Host) {s : Schema} {v : Value} (hshort : v.isShort = true)
    (o : Options) :
    h.attach s v =
        (⟨h.subscriptions.add Subscriptions.allEvents ⟨s.rule, o⟩, h.log⟩, Option.none) ↔
      s.Admits v o := by
  refine ⟨fun heq => ?_, attach_admitted h⟩
  rcases value_cases s v with habsent | ⟨o', hadmits⟩ | ⟨habsent, hrefused⟩
  · rw [attach_absent h s habsent] at heq
    exact absurd (congrArg (·.1.subscriptions) heq).symm (add_ne_self _ _ _)
  · rw [attach_admitted h hadmits] at heq
    have hadded := List.append_cancel_left (congrArg (·.1.subscriptions) heq)
    simp only [List.cons.injEq, Prod.mk.injEq, Listener.mk.injEq, true_and, and_true] at hadded
    rwa [← hadded]
  · obtain ⟨message, _, hattach⟩ := attach_refused h hshort habsent hrefused
    rw [hattach] at heq
    exact absurd (congrArg (·.1.log) heq) (by simp)

theorem attach_eq_refusing_iff (h : Host) {s : Schema} {v : Value} (hshort : v.isShort = true) :
    (∃ message, s.refusal v = .ok message ∧
        h.attach s v =
          (⟨h.subscriptions, h.log ++ [⟨.error, message, 1, 1, s.rule, ""⟩]⟩, Option.none)) ↔
      ¬ v.Absent ∧ ∀ o, ¬ s.Admits v o := by
  refine ⟨?_, fun ⟨habsent, hrefused⟩ => attach_refused h hshort habsent hrefused⟩
  rintro ⟨message, _, heq⟩
  rcases value_cases s v with habsent | ⟨o, hadmits⟩ | hrefused
  · rw [attach_absent h s habsent] at heq
    exact absurd (congrArg (·.1.log) heq) (by simp)
  · rw [attach_admitted h hadmits] at heq
    exact absurd (congrArg (·.1.subscriptions) heq) (add_ne_self _ _ _)
  · exact hrefused

/-! ## Documents that nobody listens to -/

theorem playEvents_unheard (es : List Event) : Yields (playEvents [] es) () [] := by
  induction es with
  | nil => exact .pure ()
  | cons e rest ih =>
    have hheard : Yields (hearAll e (Subscriptions.receivers [] e.kind)) () [] := .pure ()
    exact .quiet rfl (hheard.bind ih)

/-- A document that can be read to its end, and that nobody listens to, adds nothing to the log. -/
theorem play_unheard {html : String} (hhtml : (Markup.read html).fault = Option.none) :
    Yields (play [] html) () [] := by
  unfold play
  dsimp only
  rw [hhtml]
  exact .quiet rfl ((playEvents_unheard _).bind (.pure ()))

/-- A run whose only rule is switched off. -/
theorem lintText_off {html : String} {v : Value} (hhtml : (Markup.read html).fault = Option.none)
    (hresolve : Schema.blockWords.resolve v = Option.none) :
    Yields (lintText html [(.str "block-words", v)]) () [] := by
  have hlisten : Yields (listenAll [] [(.str "block-words", v)]) [] [] := by
    unfold listenAll
    rw [ruleOf?_blockWords]
    dsimp only [Rule.blockWords]
    rw [hresolve]
    exact .quiet rfl (.pure _)
  exact lintText_of_halves hlisten (play_unheard hhtml)

/-- A run without options: the rule is off, or is given nothing. -/
theorem lintText_absent {html : String} {v : Value} (hhtml : (Markup.read html).fault = Option.none)
    (hv : v.Absent) : Yields (lintText html [(.str "block-words", v)]) () [] := by
  by_cases hoff : v = .bool false
  · rw [hoff]
    exact lintText_off hhtml rfl
  · have hon : v ≠ .bool true := by
      rintro rfl
      cases hv.1
    exact lintText_of_halves
      (listenAll_single (resolve_of_ne _ hon hoff) (listen_absent_yields _ hv)) (play_unheard hhtml)

/-- A run with options that are refused. -/
theorem lintText_refused {html : String} {v : Value} {message : String}
    (hhtml : (Markup.read html).fault = Option.none) (habsent : ¬ v.Absent)
    (hrefused : ∀ o, ¬ Schema.blockWords.Admits v o) (hon : v ≠ .bool true)
    (hmessage : Schema.blockWords.refusal v = .ok message) :
    Yields (lintText html [(.str "block-words", v)]) ()
      [refusalDiagnostic Schema.blockWords message] := by
  have hoff : v ≠ .bool false := by
    rintro rfl
    exact habsent (Value.isAbsent_iff.mp rfl)
  exact lintText_of_halves
    (listenAll_single (resolve_of_ne _ hon hoff) (listen_refused_yields habsent hrefused hmessage))
    (play_unheard hhtml)

/-! ## The law -/

/-- **What becomes of options.** Given a value, a rule leaves its host as it is exactly when the value is
absent; it listens to all events, with some options, exactly when the value is admitted and comes to those;
and it adds the one diagnostic that echoes the value exactly in all other cases. So a run over any document
that can be read is empty for a value that is absent, and has that one diagnostic for one that is refused,
unless the value says that the rule is on. -/
theorem attach_outcome (s : Schema) (v : Value) (hshort : v.isShort = true) :
    (∀ h : Host,
      (h.attach s v = (h, Option.none) ↔ v.Absent) ∧
      (∀ o, h.attach s v =
          (⟨h.subscriptions.add Subscriptions.allEvents ⟨s.rule, o⟩, h.log⟩, Option.none) ↔
        s.Admits v o) ∧
      ((∃ message, s.refusal v = .ok message ∧
          h.attach s v =
            (⟨h.subscriptions, h.log ++ [⟨.error, message, 1, 1, s.rule, ""⟩]⟩, Option.none)) ↔
        ¬ v.Absent ∧ ∀ o, ¬ s.Admits v o)) ∧
    ∀ html, (Markup.read html).fault = Option.none →
      (v.Absent →
        (lintText html [(.str "block-words", v)]).result = .ok () ∧
          (lintText html [(.str "block-words", v)]).log = []) ∧
      (¬ v.Absent → (∀ o, ¬ Schema.blockWords.Admits v o) → v ≠ .bool true →
        ∃ message, Schema.blockWords.refusal v = .ok message ∧
          (lintText html [(.str "block-words", v)]).result = .ok () ∧
          (lintText html [(.str "block-words", v)]).log =
            [⟨.error, message, 1, 1, "block-words", ""⟩]) := by
  refine ⟨fun h => ⟨attach_eq_self_iff h s hshort, attach_eq_listening_iff h hshort,
    attach_eq_refusing_iff h hshort⟩, fun html hhtml => ⟨fun habsent => ?_, ?_⟩⟩
  · have hrun := lintText_absent hhtml habsent
    exact ⟨hrun.result, hrun.log⟩
  · intro habsent hrefused hon
    obtain ⟨message, hmessage⟩ := refusal_of_isShort Schema.blockWords hshort
    have hrun := lintText_refused hhtml habsent hrefused hon hmessage
    exact ⟨message, hmessage, hrun.result, hrun.log⟩

/-- A dictionary under a key that JSON has no form for, with itself as the value: it is refused, and shown
as text. A dictionary with a group, seen through two windows: it is admitted. -/
theorem attach_outcome_circular :
    Value.isShort (.dict [(.tuple [.int 1], .up 0)]) = true ∧
      Host.empty.attach .blockWords (.dict [(.tuple [.int 1], .up 0)]) =
        (⟨[], [⟨.error, "Expected an object with keys from \"all, attributeNames, attributeValues, " ++
            "tagNames, text\" and string array values for rule block-words but got " ++
            "\x7b(1,): \x7b...\x7d\x7d", 1, 1, "block-words", ""⟩]⟩, Option.none) ∧
      (lintText "<p>" [(.str "block-words", .dict [(.tuple [.int 1], .up 0)])]).log =
        (Host.empty.attach .blockWords (.dict [(.tuple [.int 1], .up 0)])).1.log ∧
      Value.isShort (.view (.view (.dict [(.str "all", .list [.str "x"])]))) = true ∧
      Host.empty.attach .blockWords (.view (.view (.dict [(.str "all", .list [.str "x"])]))) =
        (⟨[("all", ⟨"block-words", ⟨some ["x"], none, none, none, none⟩⟩)], []⟩, Option.none) := by
  have hshort : Value.isShort (.dict [(.tuple [.int 1], .up 0)]) = true := by decide +kernel
  have hmessage : Schema.blockWords.refusal (.dict [(.tuple [.int 1], .up 0)]) =
      .ok ("Expected an object with keys from \"all, attributeNames, attributeValues, " ++
        "tagNames, text\" and string array values for rule block-words but got " ++
        "\x7b(1,): \x7b...\x7d\x7d") := by
    decide +kernel
  have habsent : ¬ Value.Absent (.dict [(.tuple [.int 1], .up 0)]) := by
    rintro ⟨htruthy, _⟩
    cases htruthy
  have hrefused : ∀ o, ¬ Schema.blockWords.Admits (.dict [(.tuple [.int 1], .up 0)]) o := by
    intro o hadmits
    cases Schema.read_eq_ok_iff.mpr hadmits
  have hon : (.dict [(.tuple [.int 1], .up 0)] : Value) ≠ .bool true := by
    intro heq
    cases heq
  have hhtml : (Markup.read "<p>").fault = Option.none := by cbv
  obtain ⟨hhost, hrun⟩ := attach_outcome .blockWords (.dict [(.tuple [.int 1], .up 0)]) hshort
  obtain ⟨message, hm, hattach⟩ := (hhost Host.empty).2.2.mpr ⟨habsent, hrefused⟩
  obtain ⟨message', hm', _, hlog⟩ := (hrun "<p>" hhtml).2 habsent hrefused hon
  rw [hmessage] at hm hm'
  cases hm
  cases hm'
  have hwindows : Value.isShort (.view (.view (.dict [(.str "all", .list [.str "x"])]))) = true := by decide +kernel
  have hadmits : Schema.blockWords.Admits (.view (.view (.dict [(.str "all", .list [.str "x"])])))
      ⟨some ["x"], none, none, none, none⟩ := Schema.read_eq_ok_iff.mp rfl
  have hlistens := (((attach_outcome .blockWords _ hwindows).1 Host.empty).2.1 _).mpr hadmits
  refine ⟨hshort, hattach, ?_, hwindows, hlistens⟩
  rw [hattach, hlog]
  rfl

end WordLint
