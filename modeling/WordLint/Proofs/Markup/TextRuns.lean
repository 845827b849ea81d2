import WordLint.Proofs.Markup.Hearing
import WordLint.Proofs.Markup.Reports

/-!
# Texts are whole

A text is often reported in several parts: data, declarations, processing instructions, sections, constructs
without an end. Reported texts that follow on one another are a run; any other report is a run of its own.

**The law** (`texts_whole`): each run makes one event. It stands where the first report of the run starts, and
holds the document from there to the start of the next run, so a text is heard as a whole, with all that is
silent in it. No two events in a row are texts. This is so for documents with a fault too, where the run at
the fault makes no event because its end is never reached.

`OpenRun` is the invariant: the reports of the run so far, beside the event that is open. A part that joins
the run keeps it, and a part that does not starts it anew.
-/

namespace WordLint.Markup

/-! ## Runs -/

/-- Two reports in a row are parts of one text. -/
def Report.joins (r s : Report) : Bool :=
  r.role == .text && s.role == .text

/-- Reports cut into runs. -/
def runs (rs : List Report) : List (List Report) :=
  rs.splitBy Report.joins

/-- The first reports of the runs. -/
def openers (rs : List Report) : List Report :=
  (runs rs).filterMap List.head?

/-- The event that a report opens and that ends at a position of the document. -/
def Report.eventTo (doc : List Char) (r : Report) (stop : Nat) : Event :=
  Open.complete ⟨Place.reached r.front, r.role, slice doc r.start stop⟩

/-- The events of runs: each ends where the next one starts, and the last one at a position that is given, if
there is one. -/
def eventsOf (doc : List Char) (firsts : List Report) (last : List Nat) : List Event :=
  List.zipWith (Report.eventTo doc) firsts (firsts.tail.map Report.start ++ last)

theorem joins_iff {r s : Report} : r.joins s = true ↔ r.role = .text ∧ s.role = .text := by
  unfold Report.joins
  rw [Bool.and_eq_true, beq_iff_eq, beq_iff_eq]

/-- A run is one report, or texts only. -/
theorem eq_singleton_or_texts {run : List Report} (hrun : run ≠ [])
    (h : run.IsChain fun r s => r.joins s = true) : (∃ r, run = [r]) ∨ ∀ r ∈ run, r.role = .text := by
  induction run with
  | nil => exact absurd rfl hrun
  | cons r rest ih =>
    cases rest with
    | nil => exact Or.inl ⟨r, rfl⟩
    | cons s rest =>
      obtain ⟨hjoins, hrest⟩ := List.isChain_cons_cons.mp h
      obtain ⟨hr, hs⟩ := joins_iff.mp hjoins
      refine Or.inr (List.forall_mem_cons.mpr ⟨hr, ?_⟩)
      rcases ih (List.cons_ne_nil _ _) hrest with ⟨t, ht⟩ | htexts
      · cases ht
        exact List.forall_mem_singleton.mpr hs
      · exact htexts

/-- Two runs of texts never touch: a run takes in all the texts that there are. -/
theorem runs_apart (rs : List Report) : (runs rs).IsChain fun run next =>
    ¬ ((∀ r ∈ run, r.role = .text) ∧ ∀ r ∈ next, r.role = .text) := by
  refine (List.isChain_getLast_head_splitBy Report.joins rs).imp fun run next happart htexts => ?_
  obtain ⟨hrun, hnext, hjoins⟩ := happart
  rw [joins_iff.mpr ⟨htexts.1 _ (List.getLast_mem hrun), htexts.2 _ (List.head_mem hnext)⟩] at hjoins
  cases hjoins

/-- The first report opens the first run. -/
theorem openers_cons (r : Report) (rs : List Report) : ∃ more, openers (r :: rs) = r :: more := by
  have hflat : (runs (r :: rs)).flatten = r :: rs := List.flatten_splitBy _ _
  have hnil : [] ∉ runs (r :: rs) := List.nil_notMem_splitBy _ _
  unfold openers
  cases hruns : runs (r :: rs) with
  | nil =>
    rw [hruns] at hflat
    cases hflat
  | cons run more =>
    rw [hruns] at hflat hnil
    cases run with
    | nil => exact absurd List.mem_cons_self hnil
    | cons s run =>
      cases hflat
      exact ⟨more.filterMap List.head?, rfl⟩

/-- A report that does not join a run opens the next one. -/
theorem openers_append {first : Report} {more : List Report} {r : Report} (rs : List Report)
    (hrun : (first :: more).IsChain fun r s => r.joins s = true)
    (hr : ∀ s ∈ (first :: more).getLast?, s.joins r = false) :
    openers (first :: more ++ r :: rs) = first :: openers (r :: rs) := by
  unfold openers runs
  rw [List.splitBy_append_cons rs hr, List.splitBy_of_isChain (List.cons_ne_nil _ _) hrun]
  rfl

theorem openers_run {first : Report} {more : List Report}
    (hrun : (first :: more).IsChain fun r s => r.joins s = true) : openers (first :: more) = [first] := by
  unfold openers runs
  rw [List.splitBy_of_isChain (List.cons_ne_nil _ _) hrun]
  rfl

/-! ## What assembling keeps -/

/-- The run that begins with `first` has opened this event, which has grown to the end of `front`. -/
structure OpenRun (first : Report) (more : List Report) (front : List Char) (o : Open) : Prop where
  run : (first :: more).IsChain fun r s => r.joins s = true
  last : ∀ r ∈ (first :: more).getLast?, r.role = o.role
  place : o.place = Place.reached first.front
  role : o.role = first.role
  front : first.front ++ o.chars = front

/-- A report opens its own run. -/
theorem OpenRun.single (r : Report) :
    OpenRun r [] (r.front ++ r.own) ⟨Place.reached r.front, r.role, r.own⟩ where
  run := List.isChain_singleton _
  last := by
    rintro s ⟨⟩
    rfl
  place := rfl
  role := rfl
  front := rfl

variable {first : Report} {more : List Report} {front doc : List Char} {o : Open}

/-- An open event may grow without a report. -/
theorem OpenRun.grow (h : OpenRun first more front o) (w : List Char) :
    OpenRun first more (front ++ w) ⟨o.place, o.role, o.chars ++ w⟩ where
  __ := h
  front := by rw [← h.front, List.append_assoc]

/-- A text joins an open text. -/
theorem OpenRun.join (h : OpenRun first more front o) (ho : o.role = .text) {r : Report}
    (hr : r.role = .text) : OpenRun first (more ++ [r]) front o where
  __ := h
  run := by
    rw [← List.cons_append]
    refine List.isChain_append.mpr ⟨h.run, List.isChain_singleton _, ?_⟩
    rintro s hs t ⟨⟩
    exact joins_iff.mpr ⟨(h.last s hs).trans ho, hr⟩
  last := by
    rw [← List.cons_append, List.getLast?_concat]
    rintro s ⟨⟩
    exact hr.trans ho.symm

/-- The complete event of a run is the document from its first report on. -/
theorem OpenRun.complete (h : OpenRun first more front o) (hdoc : front <+: doc) :
    o.complete = first.eventTo doc front.length := by
  have hslice : slice doc first.start front.length = o.chars := by
    unfold slice Report.start
    rw [← List.prefix_iff_eq_take.mp hdoc, ← h.front, List.drop_left]
  unfold Report.eventTo
  rw [hslice, ← h.place, ← h.role]

/-- **The parts behind an open event make the events of their runs**, with the run that is open as the first
one. -/
theorem assembled_runs {fault : Option Fault} (ps : List Part) :
    ∀ {first : Report} {more : List Report} {front : List Char} {o : Open}, OpenRun first more front o →
      front ++ ps.flatMap (·.chars) <+: doc → (fault = none → front ++ ps.flatMap (·.chars) = doc) →
      assembled (Place.reached front) (some o) ps fault =
        eventsOf doc (openers (first :: more ++ reports front ps))
          (if fault = none then [doc.length] else []) := by
  induction ps with
  | nil =>
    intro first more front o hopen hdoc hend
    rw [List.flatMap_nil, List.append_nil] at hdoc hend
    unfold eventsOf
    rw [assembled_nil, reports, List.append_nil, openers_run hopen.run]
    by_cases hfault : fault = none
    · rw [if_pos hfault, if_pos hfault, ← hend hfault]
      exact congrArg (fun e => [e]) (hopen.complete (List.prefix_refl front))
    · rw [if_neg hfault, if_neg hfault]
      rfl
  | cons part rest ih =>
    intro first more front o hopen hdoc hend
    rw [List.flatMap_cons, ← List.append_assoc] at hdoc hend
    cases hcontinues : continues (some o) part.role with
    | true =>
      rw [assembled_joins hcontinues, grown_some, ← Place.reached_append]
      rcases continues_iff.mp hcontinues with hsilent | ⟨_, ⟨⟩, ho, htext⟩
      · rw [reports_silent hsilent]
        exact ih (hopen.grow part.chars) hdoc hend
      · have hloud : part.role ≠ .silent := by
          rw [htext]
          exact Role.noConfusion
        rw [reports_loud hloud, List.append_cons]
        exact ih ((hopen.join ho htext).grow part.chars) hdoc hend
    | false =>
      obtain ⟨hloud, hapart⟩ := continues_eq_false_iff.mp hcontinues
      have happly := ih (OpenRun.single ⟨front, part.role, part.chars, rest.flatMap (·.chars)⟩) hdoc hend
      rw [assembled_opens hcontinues, ← Place.reached_append, happly, reports_loud hloud,
        openers_append _ hopen.run ?_]
      · obtain ⟨firsts, hfirsts⟩ :=
          openers_cons ⟨front, part.role, part.chars, rest.flatMap (·.chars)⟩
            (reports (front ++ part.chars) rest)
        have hfront : front <+: doc :=
          (List.prefix_append _ _).trans ((List.prefix_append _ _).trans hdoc)
        rw [List.singleton_append, hfirsts, Option.map_some, Option.toList_some, hopen.complete hfront]
        rfl
      · intro s hs
        rw [← Bool.not_eq_true, joins_iff, hopen.last s hs]
        exact hapart o rfl

/-- Before any event is open, silent parts are passed over. -/
theorem assembled_none_runs {fault : Option Fault} (ps : List Part) :
    ∀ front : List Char, front ++ ps.flatMap (·.chars) <+: doc →
      (fault = none → front ++ ps.flatMap (·.chars) = doc) →
      assembled (Place.reached front) none ps fault =
        eventsOf doc (openers (reports front ps)) (if fault = none then [doc.length] else []) := by
  induction ps with
  | nil =>
    intro front _ _
    rw [assembled_nil]
    exact ite_self _
  | cons part rest ih =>
    intro front hdoc hend
    rw [List.flatMap_cons, ← List.append_assoc] at hdoc hend
    by_cases hsilent : part.role = .silent
    · have hcontinues : continues none part.role = true := continues_iff.mpr (Or.inl hsilent)
      rw [assembled_joins hcontinues, ← Place.reached_append, reports_silent hsilent]
      exact ih _ hdoc hend
    · have hcontinues : continues none part.role = false :=
        continues_eq_false_iff.mpr ⟨hsilent, fun o ho => nomatch ho⟩
      rw [assembled_opens hcontinues, ← Place.reached_append, reports_loud hsilent]
      exact assembled_runs rest
        (OpenRun.single ⟨front, part.role, part.chars, rest.flatMap (·.chars)⟩) hdoc hend

/-- The events of a document, with or without a fault, are those of its runs. -/
theorem read_events_runs (html : String) :
    (read html).events = eventsOf html.toList (openers (reported html))
      (if (read html).fault = none then [html.length] else []) := by
  obtain ⟨rest, hchars, hnone⟩ := parts_chars none html.toList
  rw [read_events_eq, read_fault, ← String.length_toList]
  refine assembled_none_runs (parts none html.toList).1 [] ?_ ?_
  · exact ⟨rest, hchars⟩
  · intro hfault
    rw [hnone hfault, List.append_nil] at hchars
    exact hchars

/-! ## Texts in a row -/

/-- Of the reported roles only that of a text makes a text. -/
theorem Role.eq_text_of_kind {role : Role} (hloud : role ≠ .silent) (h : role.kind = .text) :
    role = .text := by
  cases role with
  | text => rfl
  | silent => exact absurd rfl hloud
  | _ => cases h

/-- No two texts come in a row, and the event that is open comes first. -/
theorem assembled_apart (fault : Option Fault) (ps : List Part) :
    ∀ (place : Place) (current : Option Open), (∀ o ∈ current, o.role ≠ .silent) →
      (assembled place current ps fault).IsChain (fun e f => ¬ (e.kind = .text ∧ f.kind = .text)) ∧
        ∀ o ∈ current, ∀ e ∈ (assembled place current ps fault).head?, e.kind = o.role.kind := by
  induction ps with
  | nil =>
    intro place current _
    rw [assembled_nil]
    cases current with
    | none =>
      rw [Option.map_none, Option.toList_none, ite_self]
      exact ⟨List.isChain_nil, fun o ho => nomatch ho⟩
    | some o =>
      by_cases hfault : fault = none
      · rw [if_pos hfault]
        refine ⟨List.isChain_singleton _, ?_⟩
        rintro _ ⟨⟩ e ⟨⟩
        rfl
      · rw [if_neg hfault]
        exact ⟨List.isChain_nil, fun o _ e he => nomatch he⟩
  | cons part rest ih =>
    intro place current hcurrent
    cases hcontinues : continues current part.role with
    | true =>
      rw [assembled_joins hcontinues]
      have hgrown : ∀ o ∈ Parser.grown part.chars current, o.role ≠ .silent := by
        intro _ hmem
        obtain ⟨o, ho, rfl⟩ := Option.map_eq_some_iff.mp hmem
        exact hcurrent o ho
      obtain ⟨hchain, hhead⟩ := ih (part.chars.foldl Place.after place) _ hgrown
      exact ⟨hchain, fun o ho e he => hhead _ (Option.map_eq_some_iff.mpr ⟨o, ho, rfl⟩) e he⟩
    | false =>
      obtain ⟨hloud, hapart⟩ := continues_eq_false_iff.mp hcontinues
      have hopened : ∀ o ∈ some (Open.mk place part.role part.chars), o.role ≠ .silent := by
        rintro _ ⟨⟩
        exact hloud
      obtain ⟨hchain, hhead⟩ := ih (part.chars.foldl Place.after place) _ hopened
      rw [assembled_opens hcontinues]
      cases current with
      | none => exact ⟨hchain, fun o ho => nomatch ho⟩
      | some o =>
        refine ⟨List.isChain_cons.mpr ⟨?_, hchain⟩, ?_⟩
        · rintro f hf ⟨he, hftext⟩
          rw [hhead _ rfl f hf] at hftext
          exact hapart o rfl ⟨Role.eq_text_of_kind (hcurrent o rfl) he, Role.eq_text_of_kind hloud hftext⟩
        · rintro _ ⟨⟩ e ⟨⟩
          rfl

/-- **Texts are whole.** The reports of a document are cut into runs, each of them texts only or a single
tag or comment, and no two runs of texts touch. What a receiver of all events hears is one event for each run:
it stands where the first report of the run starts and goes on to the start of the next run; the last one goes
on to the end of the document, and is left out if there is a fault. No two events in a row are texts. -/
theorem texts_whole (receiver html : String) :
    (runs (reported html)).flatten = reported html ∧
      (∀ run ∈ runs (reported html),
        (∃ r, run = [r] ∧ r.role.marks = true) ∨ run ≠ [] ∧ ∀ r ∈ run, r.role = .text) ∧
      ((runs (reported html)).IsChain fun run next =>
        ¬ ((∀ r ∈ run, r.role = .text) ∧ ∀ r ∈ next, r.role = .text)) ∧
      Audience.heard receiver html = eventsOf html.toList (openers (reported html))
        (if (read html).fault = none then [html.length] else []) ∧
      (Audience.heard receiver html).IsChain fun e f => ¬ (e.kind = .text ∧ f.kind = .text) := by
  rw [Audience.heard_eq]
  refine ⟨List.flatten_splitBy _ _, ?_, runs_apart _, read_events_runs html, ?_⟩
  · intro run hrun
    have hne : run ≠ [] := List.ne_nil_of_mem_splitBy hrun
    rcases eq_singleton_or_texts hne (List.isChain_of_mem_splitBy hrun) with ⟨r, rfl⟩ | htexts
    · have hr : r ∈ reported html := by
        rw [← List.flatten_splitBy Report.joins (reported html)]
        exact List.mem_flatten_of_mem hrun List.mem_cons_self
      have hloud := reports_ne_silent _ _ r hr
      cases hrole : r.role with
      | silent => exact absurd hrole hloud
      | text => exact Or.inr ⟨hne, List.forall_mem_singleton.mpr hrole⟩
      | _ => exact Or.inl ⟨r, rfl, by rw [hrole]; rfl⟩
    · exact Or.inr ⟨hne, htexts⟩
  · rw [read_events_eq]
    exact (assembled_apart _ _ .start none fun o ho => nomatch ho).1

example : (read "<!doctype a>b<?c>d<i>").events.map (fun e => (e.kind, e.raw)) =
    [(.text, "<!doctype a>b<?c>d"), (.startTag, "<i>")] := by
  cbv

end WordLint.Markup
