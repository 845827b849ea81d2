import WordLint.Proofs.Lint.Completed

/-!
# The examples of a rule and a configuration with one entry

An example of a rule gives the rule its options as they are. A configuration is looked at first: an entry may
switch its rule off or ask for the rule's own options, and the rule is looked up by its name. Somebody who sees
only how a run ends and what it reports cannot tell the two ways apart.

Two runs are `Alike` when they agree on both. The steps in which the two ways differ report nothing, and runs
that are alike stay so when others come behind them.

**The law** (`lintText_eq_example`): for every document and every value but the one that only says that the rule
is on, a run with this value ends as the example with this value does, error or not, and with the same log; and
the value that says that the rule is on stands for the rule's own options.
-/

namespace WordLint

open Recorded

/-! ## Runs that look the same -/

/-- Two runs end alike and report the same. -/
structure Alike {α : Type} (r r' : Run α) : Prop where
  result : r.result = r'.result
  log : r.log = r'.log

namespace Alike

variable {α β : Type} {r r' r'' : Run α} {f f' : α → Run β}

theorem refl (r : Run α) : Alike r r := ⟨rfl, rfl⟩

theorem symm (h : Alike r r') : Alike r' r :=
  ⟨h.result.symm, h.log.symm⟩

theorem trans (h : Alike r r') (h' : Alike r' r'') : Alike r r'' :=
  ⟨h.result.trans h'.result, h.log.trans h'.log⟩

/-- Runs that come to the same value are alike up to what comes behind them. -/
theorem bind (h : Alike r r') (hf : ∀ a, Alike (f a) (f' a)) : Alike (r >>= f) (r' >>= f') := by
  obtain ⟨steps, result⟩ := r
  obtain ⟨steps', result'⟩ := r'
  obtain ⟨hresult, hlog⟩ := h
  cases hresult
  cases result with
  | error e => exact ⟨rfl, hlog⟩
  | ok a =>
    refine ⟨(hf a).result, ?_⟩
    calc diagnosticsOf (steps ++ (f a).steps)
        = diagnosticsOf steps ++ (f a).log := diagnosticsOf_append steps (f a).steps
      _ = diagnosticsOf steps' ++ (f' a).log := congrArg₂ (· ++ ·) hlog (hf a).log
      _ = diagnosticsOf (steps' ++ (f' a).steps) := (diagnosticsOf_append steps' (f' a).steps).symm

/-- A step that reports nothing is not seen in front of a run. -/
theorem quiet {s : Step} {f : Unit → Run α} (hs : s.diagnostic? = none) :
    Alike ((.note s : Run Unit) >>= f) (f ()) :=
  ⟨rfl, (Yields.noted hs).log_bind⟩

/-- Nor is it seen behind one. -/
theorem quiet_behind {r : Run Unit} {s : Step} (hs : s.diagnostic? = none) :
    Alike (r >>= fun _ => .note s) r := by
  refine ⟨?_, ?_⟩
  · obtain ⟨steps, result⟩ := r
    cases result <;> rfl
  · rw [log_bind, (Yields.noted hs).log, ite_self, List.append_nil]

/-- What a run yields may be put into another form at once or later. -/
theorem bind_pure {γ : Type} (r : Run α) (g : α → β) (f : β → Run γ) :
    Alike ((r >>= fun a => pure (g a)) >>= f) (r >>= fun a => f (g a)) := by
  obtain ⟨steps, result⟩ := r
  cases result with
  | error e => exact refl _
  | ok a => exact ⟨rfl, congrArg (fun front => diagnosticsOf (front ++ (f (g a)).steps)) (List.append_nil steps)⟩

end Alike

/-! ## One entry -/

/-- A run with one entry gives its rule the options, and reads the document. -/
theorem lintText_single (html : String) (entry : Value × Value) :
    Alike (lintText html [entry]) (listenEntry entry >>= fun l => play (subscribe [] l) html) := by
  have hbody : Alike (lintBody html [entry]) (listenAll [] [entry] >>= fun s => play s html) := .quiet rfl
  have hlisten : listenAll [] [entry] = listenEntry entry >>= fun l => pure (subscribe [] l) :=
    listenAll_cons [] entry []
  rw [hlisten] at hbody
  exact (Alike.quiet_behind rfl).trans (hbody.trans (.bind_pure _ _ _))

/-- An entry whose value comes to some options gives the rule these options. -/
theorem listenEntry_resolved {v given : Value} (h : Schema.blockWords.resolve v = some given) :
    Alike (listenEntry (.str "block-words", v)) (Schema.blockWords.listen given) := by
  unfold listenEntry
  rw [ruleOf?_blockWords]
  dsimp only [Rule.blockWords]
  rw [h]
  exact .quiet rfl

/-- A rule that is switched off is as good as one that is given the value that says so. -/
theorem listenEntry_off :
    Alike (listenEntry (.str "block-words", .bool false)) (Schema.blockWords.listen (.bool false)) := by
  have hentry : Alike (listenEntry (.str "block-words", .bool false)) (pure none) := by
    unfold listenEntry
    rw [ruleOf?_blockWords]
    exact .quiet rfl
  have hlisten : Alike (Schema.blockWords.listen (.bool false)) (pure none) := .quiet rfl
  exact hentry.trans hlisten.symm

/-- An entry gives the rule its value, unless the value only says that the rule is on. -/
theorem listenEntry_alike {v : Value} (hon : v ≠ .bool true) :
    Alike (listenEntry (.str "block-words", v)) (Schema.blockWords.listen v) := by
  by_cases hoff : v = .bool false
  · rw [hoff]
    exact listenEntry_off
  · exact listenEntry_resolved (resolve_of_ne _ hon hoff)

/-- What an entry gives to the rule counts, and not how. -/
theorem lintText_of_listenEntry {v given : Value} (html : String)
    (h : Alike (listenEntry (.str "block-words", v)) (Schema.blockWords.listen given)) :
    Alike (lintText html [(.str "block-words", v)]) (Schema.blockWords.runOver given html) :=
  (lintText_single html _).trans (h.bind fun _ => .refl _)

/-! ## The law -/

/-- **The two ways to run a rule agree.** A run over a document with a value for the rule ends as the example
with that document and that value does and reports the same, whatever the value is, as long as it says more
than that the rule is on; a value that says no more stands for the rule's own options. -/
theorem lintText_eq_example (description html : String) (failures : List String) :
    (∀ v : Value, v ≠ .bool true →
      (lintText html [(.str "block-words", v)]).result =
          (RuleCase.run ⟨description, html, v, failures⟩ .blockWords).result ∧
        (lintText html [(.str "block-words", v)]).log =
          (RuleCase.run ⟨description, html, v, failures⟩ .blockWords).log) ∧
    (lintText html [(.str "block-words", .bool true)]).result =
        (RuleCase.run ⟨description, html, .options Schema.blockWords.defaults, failures⟩ .blockWords).result ∧
      (lintText html [(.str "block-words", .bool true)]).log =
        (RuleCase.run ⟨description, html, .options Schema.blockWords.defaults, failures⟩ .blockWords).log := by
  refine ⟨fun v hon => ?_, ?_⟩
  · have hrun := lintText_of_listenEntry html (listenEntry_alike hon)
    exact ⟨hrun.result, hrun.log⟩
  · have hrun := lintText_of_listenEntry html (listenEntry_resolved (v := .bool true) rfl)
    exact ⟨hrun.result, hrun.log⟩

/-- Options with a finding, a value that is refused and one that switches the rule off, over a document with an
unclosed element. -/
theorem lintText_eq_example_found :
    let blocking : Value := .dict [(.str "text", .list [.str "a.?d"])]
    let exampleRun (v : Value) := RuleCase.run ⟨"unclosed", "<p>Ad", v, []⟩ .blockWords
    (blocking ≠ .bool true ∧
      (lintText "<p>Ad" [(.str "block-words", blocking)]).result = (exampleRun blocking).result ∧
      (lintText "<p>Ad" [(.str "block-words", blocking)]).log = (exampleRun blocking).log ∧
      (exampleRun blocking).log.map (fun d => (d.message, d.line, d.col)) =
        [("Blocked text word from /a.?d/g detected: \"ad\"", 1, 4)]) ∧
    (Value.str "oops" ≠ .bool true ∧
      (lintText "<p>Ad" [(.str "block-words", .str "oops")]).log = (exampleRun (.str "oops")).log) ∧
    (Value.bool false ≠ .bool true ∧
      (lintText "<p>Ad" [(.str "block-words", .bool false)]).result = (exampleRun (.bool false)).result) := by
  intro blocking exampleRun
  have hblocking : blocking ≠ .bool true := nofun
  have hrefused : Value.str "oops" ≠ .bool true := nofun
  have hoff : Value.bool false ≠ .bool true := by
    intro h
    cases h
  have hagree := (lintText_eq_example "unclosed" "<p>Ad" []).1
  exact ⟨⟨hblocking, (hagree blocking hblocking).1, (hagree blocking hblocking).2, by decide +kernel⟩,
    ⟨hrefused, (hagree _ hrefused).2⟩, ⟨hoff, (hagree _ hoff).1⟩⟩

end WordLint
