import WordLint.Proofs.Lint.Endings
import WordLint.Proofs.Lint.Outcomes

/-!
# Where a delivery of events stops

Patterns are read when a check needs them and not before. So a malformed pattern does no harm as long as no
check looks for it, and stops the delivery at the first check that does. The checks that are made of some
events are written down here as one list, without any run (`Options.checksOver`).

**The law** (`delivery_stops`): a delivery stops at the first check of that list that has a malformed
pattern, with the refusal of its first malformed pattern. What it has reported then are the findings of the
checks before, all of them, and nothing of the check itself. It is put together from `Makes`, which says of a
part of a run which checks it makes and how far it gets, and goes along with the way runs are put together.

A refusal need not be one for the syntax of a pattern: a count that is too large or has too many digits, and
both alphabet flags at once, are refused as errors of other kinds (`Regex.Failure.IsSyntax`), and such an error
comes before the syntax errors behind it (`large_count_before_syntax`).
-/

namespace WordLint

open Host (errorOf)

/-! ## The checks of events -/

namespace Options

/-- The checks that are made of an event, in order: of the name of a start tag, of a text, of the attributes
of a start tag one by one, each of its value before its name, and of the markup as a whole. Nothing is
checked in a comment, in an empty name, and in an event without markup except for its name. -/
def checksAt (o : Options) (e : Event) : List Check :=
  (if e.kind = .startTag ∧ e.element.getD "" ≠ "" then
    checkOf o.tagNames (e.element.getD "") (some .tagName) else []) ++
  (if e.kind = .text ∧ e.raw ≠ "" then checkOf o.text e.raw (some .text) else []) ++
  (if e.kind = .startTag ∧ e.raw ≠ "" then
    e.attributes.flatMap fun a =>
      checkOf o.attributeValues a.value (some .attribute) ++
        checkOf o.attributeNames a.name (some .attribute) else []) ++
  (if e.kind ≠ .comment ∧ e.raw ≠ "" then checkOf o.all e.raw none else [])

/-- The checks that are made of events, one event after the other, each with its event. -/
def checksOver (o : Options) (es : List Event) : List (Event × Check) :=
  es.flatMap fun e => (o.checksAt e).map (e, ·)

end Options

namespace Listener

/-- A listener makes the checks of its options. -/
theorem checks_eq_checksAt (l : Listener) (e : Event) : l.checks e = l.options.checksAt e := by
  have hattribute : l.attributeChecks = fun a =>
      checkOf l.options.attributeValues a.value (some .attribute) ++
        checkOf l.options.attributeNames a.name (some .attribute) := rfl
  unfold checks Options.checksAt
  rw [nameChecks_eq]
  by_cases hraw : e.raw = ""
  · cases hkind : e.kind <;> simp [hraw]
  · cases hkind : e.kind <;> simp [hraw, contentChecks, hkind, hattribute]

end Listener

/-! ## How far a run gets -/

/-- Why a check cannot be made: the refusal of its first malformed pattern. -/
def Check.refusal? (c : Check) : Option Regex.Failure :=
  c.patterns.findSome? WordLint.refusal?

theorem Check.refusal?_eq_none_iff {c : Check} : c.refusal? = none ↔ Readable c.patterns := by
  unfold Check.refusal? Readable
  simp only [List.findSome?_eq_none_iff, WordLint.refusal?_eq_none_iff]

namespace Listener

/-- A run makes these checks, each of its event, up to the first that cannot be made. -/
structure Makes (l : Listener) (checks : List (Event × Check)) (r : Run Unit) : Prop where
  error : errorOf r = (checks.findSome? fun x => x.2.refusal?).map .pattern
  log : r.log =
    (checks.takeWhile fun x => x.2.refusal?.isNone).flatMap fun x => l.checkFindings x.1 x.2

variable {l : Listener} {checks more : List (Event × Check)} {r : Run Unit} {f : Unit → Run Unit}

theorem Makes.nothing (l : Listener) : l.Makes [] (pure ()) :=
  ⟨rfl, rfl⟩

/-- One run behind another gets to the second one's checks when all of the first one's are made. -/
theorem Makes.bind (h : l.Makes checks r) (h' : l.Makes more (f ())) :
    l.Makes (checks ++ more) (r >>= f) := by
  refine ⟨?_, ?_⟩
  · rw [errorOf_bind, h.error, h'.error, List.findSome?_append]
    cases checks.findSome? fun x => x.2.refusal? <;> rfl
  · rw [log_bind, h.error, h.log, h'.log]
    cases hstop : checks.findSome? fun x => x.2.refusal? with
    | none =>
      have hall : ∀ x ∈ checks, x.2.refusal?.isNone = true := by
        intro x hx
        rw [List.findSome?_eq_none_iff.mp hstop x hx]
        rfl
      rw [List.takeWhile_append_of_pos hall, List.flatMap_append,
        List.takeWhile_eq_self_iff.mpr hall]
      rfl
    | some refusal =>
      obtain ⟨before, x, after, rfl, hx, _⟩ := List.findSome?_eq_some_iff.mp hstop
      -- the check that cannot be made ends what is taken, with or without the second one's checks
      have hends : ∀ rest, ((before ++ x :: after) ++ rest).takeWhile (fun x => x.2.refusal?.isNone) =
          (before ++ x :: after).takeWhile fun x => x.2.refusal?.isNone := by
        intro rest
        rw [List.append_assoc, List.cons_append, List.takeWhile_append, List.takeWhile_append,
          List.takeWhile_cons_of_neg (by rw [hx]; exact Bool.false_ne_true),
          List.takeWhile_cons_of_neg (by rw [hx]; exact Bool.false_ne_true)]
      rw [hends]
      exact List.append_nil _

theorem Makes.quiet {s : Step} (hs : s.diagnostic? = none) (h : l.Makes checks (f ())) :
    l.Makes checks (Recorded.note s >>= f) := by
  have hnote : l.Makes [] (Recorded.note s) := ⟨rfl, (Recorded.Yields.noted hs).log⟩
  exact hnote.bind h

/-- Reading patterns reports nothing, however far it gets. -/
theorem log_readPatterns (patterns : List String) : (readPatterns patterns).log = [] := by
  induction patterns with
  | nil => rfl
  | cons raw rest ih =>
    unfold readPatterns
    cases Pattern.compile raw with
    | error f => rfl
    | ok p =>
      cases hrest : readPatterns rest with
      | mk steps result =>
        rw [hrest] at ih
        cases result with
        | error e => exact ih
        | ok patterns => exact (diagnosticsOf_append steps []).trans ((List.append_nil _).trans ih)

/-- A check is made when all its patterns can be read, and otherwise reports nothing. -/
theorem makes_runCheck (l : Listener) (e : Event) (c : Check) : l.Makes [(e, c)] (l.runCheck e c) := by
  refine ⟨?_, ?_⟩
  · rw [errorOf_runCheck]
    unfold Check.refusal?
    rw [List.findSome?_cons]
    cases c.patterns.findSome? WordLint.refusal? <;> rfl
  · cases hrefusal : c.refusal? with
    | none =>
      rw [(runCheck_yields l e c (Check.refusal?_eq_none_iff.mp hrefusal)).log]
      simp [hrefusal]
    | some f =>
      have herror := errorOf_readPatterns c.patterns
      have hlog := log_readPatterns c.patterns
      rw [show c.patterns.findSome? WordLint.refusal? = some f from hrefusal] at herror
      unfold runCheck
      cases hread : readPatterns c.patterns with
      | mk steps result =>
        rw [hread] at herror hlog
        cases result with
        | ok patterns => cases herror
        | error error =>
          rw [List.takeWhile_cons_of_neg (by rw [hrefusal]; exact Bool.false_ne_true)]
          exact hlog

theorem makes_runChecks (l : Listener) (e : Event) (checks : List Check) :
    l.Makes (checks.map (e, ·)) (l.runChecks e checks) := by
  induction checks with
  | nil => exact .nothing l
  | cons c rest ih => exact (l.makes_runCheck e c).bind ih

theorem makes_hear (l : Listener) (e : Event) :
    l.Makes ((l.options.checksAt e).map (e, ·)) (l.hear e) := by
  unfold hear
  rw [checks_eq_checksAt]
  exact l.makes_runChecks e _

/-- A listener to all events makes the checks of the events, one event after the other. -/
theorem makes_playEvents (l : Listener) (es : List Event) :
    l.Makes (l.options.checksOver es)
      (playEvents (Subscriptions.add [] Subscriptions.allEvents l) es) := by
  induction es with
  | nil => exact .nothing l
  | cons e rest ih =>
    have hheard : l.Makes ((l.options.checksAt e).map (e, ·))
        (hearAll e ((Subscriptions.add [] Subscriptions.allEvents l).receivers e.kind)) := by
      rw [Subscriptions.receivers_allEvents, ← List.append_nil (List.map _ _)]
      exact (l.makes_hear e).bind (.nothing l)
    exact .quiet rfl (hheard.bind ih)

end Listener

/-! ## The check that stops a delivery -/

/-- Among some checks, those of `before` can be made, and the next one cannot: the first malformed one of its
patterns is refused with `f`. -/
def StopsBehind (checks before : List (Event × Check)) (f : Regex.Failure) : Prop :=
  (∀ x ∈ before, Readable x.2.patterns) ∧
    ∃ next after good bad rest, checks = before ++ next :: after ∧
      next.2.patterns = good ++ bad :: rest ∧ Readable good ∧ Pattern.compile bad = .error f

/-- The refusal of a check is that of its first malformed pattern. -/
theorem Check.refusal?_eq_some_iff {c : Check} {f : Regex.Failure} :
    c.refusal? = some f ↔
      ∃ good bad rest, c.patterns = good ++ bad :: rest ∧ Readable good ∧
        Pattern.compile bad = .error f := by
  unfold Check.refusal? Readable
  rw [List.findSome?_eq_some_iff]
  simp only [WordLint.refusal?_eq_some_iff, WordLint.refusal?_eq_none_iff]
  constructor
  · rintro ⟨good, bad, rest, hpatterns, hbad, hgood⟩
    exact ⟨good, bad, rest, hpatterns, hgood, hbad⟩
  · rintro ⟨good, bad, rest, hpatterns, hgood, hbad⟩
    exact ⟨good, bad, rest, hpatterns, hbad, hgood⟩

theorem findSome?_refusal?_iff {checks : List (Event × Check)} {f : Regex.Failure} :
    (checks.findSome? fun x => x.2.refusal?) = some f ↔ ∃ before, StopsBehind checks before f := by
  rw [List.findSome?_eq_some_iff]
  simp only [Check.refusal?_eq_some_iff, Check.refusal?_eq_none_iff]
  constructor
  · rintro ⟨before, next, after, hchecks, ⟨good, bad, rest, hnext⟩, hbefore⟩
    exact ⟨before, hbefore, next, after, good, bad, rest, hchecks, hnext⟩
  · rintro ⟨before, hbefore, next, after, good, bad, rest, hchecks, hnext⟩
    exact ⟨before, next, after, hchecks, ⟨good, bad, rest, hnext⟩, hbefore⟩

theorem not_readable_iff {patterns : List String} :
    ¬ Readable patterns ↔ ∃ raw ∈ patterns, ∃ f, Pattern.compile raw = .error f := by
  unfold Readable
  simp only [not_forall, exists_prop]
  refine exists_congr fun raw => and_congr_right fun _ => ?_
  cases Pattern.compile raw with
  | ok p => simp
  | error f => simp

/-- There is a check to stop at exactly when one of them has a malformed pattern. -/
theorem exists_stopsBehind_iff {checks : List (Event × Check)} :
    (∃ f before, StopsBehind checks before f) ↔
      ∃ x ∈ checks, ∃ raw ∈ x.2.patterns, ∃ f, Pattern.compile raw = .error f := by
  simp only [← findSome?_refusal?_iff, ← not_readable_iff, ← Check.refusal?_eq_none_iff]
  rw [← Option.isSome_iff_exists, List.findSome?_isSome_iff]
  simp only [Option.isSome_iff_ne_none, ne_eq]

/-- The checks that are made are those before the one that cannot be. -/
theorem takeWhile_of_stopsBehind {checks before : List (Event × Check)} {f : Regex.Failure}
    (h : StopsBehind checks before f) :
    (checks.takeWhile fun x => x.2.refusal?.isNone) = before := by
  obtain ⟨hbefore, next, after, good, bad, rest, rfl, hnext⟩ := h
  have hall : ∀ x ∈ before, x.2.refusal?.isNone = true := by
    intro x hx
    rw [Check.refusal?_eq_none_iff.mpr (hbefore x hx)]
    rfl
  have hrefused : next.2.refusal? = some f := Check.refusal?_eq_some_iff.mpr ⟨good, bad, rest, hnext⟩
  rw [List.takeWhile_append_of_pos hall,
    List.takeWhile_cons_of_neg (by rw [hrefused]; exact Bool.false_ne_true), List.append_nil]

/-! ## The law -/

/-- A refusal for the syntax of a pattern. A count that is too large or has too many digits, and both alphabet
flags at once, are refused as errors of other kinds. -/
def Regex.Failure.IsSyntax (f : Regex.Failure) : Prop :=
  f.problem.kind = .pattern

/-- **Where a delivery stops.** Events are delivered to the listener of options that a rule has accepted.
The delivery stops exactly when some check of the events has a malformed pattern; its error is the refusal
of the first malformed pattern of the first such check, and nothing else stops it. The log holds the
findings of the checks before that one, and none of the check itself. That an error for the syntax stands
for every malformed pattern that is looked for holds exactly when the refusal at the check that stops the
delivery is one. -/
theorem delivery_stops (s : Schema) (v : Value) (o : Options) (hv : s.read v = .ok o) (es : List Event) :
    (∀ error, (playEvents (Host.empty.attach s v).1.subscriptions es).result = .error error ↔
      ∃ f before, error = .pattern f ∧ StopsBehind (o.checksOver es) before f) ∧
    ((∃ error, (playEvents (Host.empty.attach s v).1.subscriptions es).result = .error error) ↔
      ∃ x ∈ o.checksOver es, ∃ raw ∈ x.2.patterns, ∃ f, Pattern.compile raw = .error f) ∧
    (∀ f before, StopsBehind (o.checksOver es) before f →
      (playEvents (Host.empty.attach s v).1.subscriptions es).log =
        before.flatMap fun x => groupFindings s.rule x.1 x.2.category (some x.2.patterns) x.2.text) ∧
    (((∃ f, f.IsSyntax ∧
          (playEvents (Host.empty.attach s v).1.subscriptions es).result = .error (.pattern f)) ↔
        ∃ x ∈ o.checksOver es, ∃ raw ∈ x.2.patterns, ∃ f, Pattern.compile raw = .error f) ↔
      ∀ f before, StopsBehind (o.checksOver es) before f → f.IsSyntax) := by
  have hmakes := Listener.makes_playEvents ⟨s.rule, o⟩ es
  rw [attach_admitted Host.empty (Schema.read_eq_ok_iff.mp hv)]
  dsimp only [Host.empty]
  generalize playEvents (Subscriptions.add [] Subscriptions.allEvents ⟨s.rule, o⟩) es = delivery at hmakes ⊢
  dsimp only at hmakes
  have herror : ∀ error, delivery.result = .error error ↔
      ∃ f before, error = .pattern f ∧ StopsBehind (o.checksOver es) before f := by
    intro error
    rw [result_eq_error_iff, hmakes.error, Option.map_eq_some_iff]
    simp only [findSome?_refusal?_iff]
    constructor
    · rintro ⟨f, ⟨before, hbefore⟩, rfl⟩
      exact ⟨f, before, rfl, hbefore⟩
    · rintro ⟨f, before, rfl, hbefore⟩
      exact ⟨f, ⟨before, hbefore⟩, rfl⟩
  rw [← exists_stopsBehind_iff]
  refine ⟨herror, ⟨?_, ?_⟩, ?_, ⟨?_, ?_⟩⟩
  · rintro ⟨error, h⟩
    obtain ⟨f, before, _, hbefore⟩ := (herror error).mp h
    exact ⟨f, before, hbefore⟩
  · rintro ⟨f, before, hbefore⟩
    exact ⟨.pattern f, (herror _).mpr ⟨f, before, rfl, hbefore⟩⟩
  · intro f before hbefore
    rw [hmakes.log, takeWhile_of_stopsBehind hbefore]
    rfl
  · intro h f before hbefore
    obtain ⟨f', hsyntax, hraised⟩ := h.mpr ⟨f, before, hbefore⟩
    rw [(herror _).mpr ⟨f, before, rfl, hbefore⟩] at hraised
    cases hraised
    exact hsyntax
  · intro hsyntax
    constructor
    · rintro ⟨f, _, hraised⟩
      obtain ⟨f', before, _, hbefore⟩ := (herror _).mp hraised
      exact ⟨f', before, hbefore⟩
    · rintro ⟨f, before, hbefore⟩
      exact ⟨f, hsyntax f before hbefore, (herror _).mpr ⟨f, before, rfl, hbefore⟩⟩

/-- A text with a group of its own and a malformed pattern in the sweep over all markup: the findings of the
group are reported, those of the pattern before the malformed one are not. -/
theorem delivery_stops_in_sweep :
    (playEvents (Host.empty.attach .blockWords (.dict [(.str "text", .list [.str "ok"]),
        (.str "all", .list [.str "b", .str "("])])).1.subscriptions
          [⟨.text, 1, 1, "ok b", none, [], false⟩]).result =
        .error (.pattern ⟨.unterminatedGroup, some 0, "("⟩) ∧
      (playEvents (Host.empty.attach .blockWords (.dict [(.str "text", .list [.str "ok"]),
        (.str "all", .list [.str "b", .str "("])])).1.subscriptions
          [⟨.text, 1, 1, "ok b", none, [], false⟩]).log =
        [⟨.error, "Blocked text word from /ok/g detected: \"ok\"", 1, 1, "block-words", "ok b"⟩] := by
  have hread : Schema.blockWords.read (.dict [(.str "text", .list [.str "ok"]),
      (.str "all", .list [.str "b", .str "("])]) = .ok ⟨some ["b", "("], none, none, none, some ["ok"]⟩ :=
    rfl
  have hstop : StopsBehind (Options.checksOver ⟨some ["b", "("], none, none, none, some ["ok"]⟩
      [⟨.text, 1, 1, "ok b", none, [], false⟩])
      [(⟨.text, 1, 1, "ok b", none, [], false⟩, ⟨"ok b", ["ok"], some .text⟩)]
      ⟨.unterminatedGroup, some 0, "("⟩ := by
    refine ⟨?_, (⟨.text, 1, 1, "ok b", none, [], false⟩, ⟨"ok b", ["b", "("], none⟩), [], ["b"], "(", [],
      rfl, rfl, ?_, rfl⟩
    · intro x hx
      obtain rfl := List.mem_singleton.mp hx
      exact readable_singleton.mpr ⟨_, rfl⟩
    · exact readable_singleton.mpr ⟨_, rfl⟩
  obtain ⟨hresult, _, hlog, _⟩ := delivery_stops .blockWords _ _ hread
    [⟨.text, 1, 1, "ok b", none, [], false⟩]
  refine ⟨(hresult _).mpr ⟨_, _, rfl, hstop⟩, ?_⟩
  rw [hlog _ _ hstop]
  rfl

/-- A count that is too large stops a delivery with an error that is not for the syntax, before the syntax
error behind it: so malformed patterns that are looked for, even those that are refused for their syntax, need
not lead to an error for the syntax. -/
theorem large_count_before_syntax :
    (∃ x ∈ Options.checksOver ⟨some ["a{4294967295}", "("], none, none, none, none⟩
        [⟨.text, 1, 1, "a", none, [], false⟩], ∃ raw ∈ x.2.patterns, ∃ f,
          Pattern.compile raw = .error f ∧ f.IsSyntax) ∧
      ¬ ∃ f, f.IsSyntax ∧
        (playEvents (Host.empty.attach .blockWords (.dict [(.str "all",
          .list [.str "a{4294967295}", .str "("])])).1.subscriptions
            [⟨.text, 1, 1, "a", none, [], false⟩]).result = .error (.pattern f) := by
  have hresult : (playEvents (Host.empty.attach .blockWords (.dict [(.str "all",
      .list [.str "a{4294967295}", .str "("])])).1.subscriptions
        [⟨.text, 1, 1, "a", none, [], false⟩]).result =
      .error (.pattern ⟨.countTooLarge, none, "a{4294967295}"⟩) := rfl
  refine ⟨⟨(⟨.text, 1, 1, "a", none, [], false⟩, ⟨"a", ["a{4294967295}", "("], none⟩),
    List.mem_singleton.mpr rfl, "(", by simp, ⟨.unterminatedGroup, some 0, "("⟩, rfl, rfl⟩, ?_⟩
  rintro ⟨f, hsyntax, h⟩
  rw [hresult] at h
  cases h
  cases hsyntax

end WordLint
