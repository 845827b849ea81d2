import WordLint.Proofs.Markup.Tiling

/-!
# What is reported of a document

While a document is read, every part that is not silent is reported once: at the place where it starts, with
its role. The events are made of these reports, and of the document between them.

`assembled` gives the events of parts together with the one that is left open: at the end of a document that
one is complete too, and at a fault it is lost. It takes one equation for each way in which the parts go on
(`assembled_nil`, `assembled_joins`, `assembled_opens`), so that nothing below has to look into `assemble`.

Two laws hold of every list of parts. The first event is the open one, perhaps longer
(`assembled_some_of_complete`), and every event that is no text is opened by a part of its own
(`assembled_split`).
-/

namespace WordLint.Markup

/-! ## Reports -/

/-- What is reported of a part that is not silent. -/
structure Report where
  /-- The document in front of the part. -/
  front : List Char
  role : Role
  /-- The characters of the part. -/
  own : List Char
  /-- What has been read behind it. -/
  behind : List Char
deriving Repr, DecidableEq

/-- The position at which a part starts. -/
def Report.start (r : Report) : Nat :=
  r.front.length

/-- The reports of parts that stand behind a front. -/
def reports (front : List Char) : List Part → List Report
  | [] => []
  | part :: rest =>
    let more := reports (front ++ part.chars) rest
    if part.role = .silent then more
    else ⟨front, part.role, part.chars, rest.flatMap (·.chars)⟩ :: more

/-- The reports of a document. -/
def reported (html : String) : List Report :=
  reports [] (parts none html.toList).1

theorem reports_silent {part : Part} (h : part.role = .silent) (front : List Char) (rest : List Part) :
    reports front (part :: rest) = reports (front ++ part.chars) rest := by
  rw [reports, if_pos h]

theorem reports_loud {part : Part} (h : part.role ≠ .silent) (front : List Char) (rest : List Part) :
    reports front (part :: rest) =
      ⟨front, part.role, part.chars, rest.flatMap (·.chars)⟩ :: reports (front ++ part.chars) rest := by
  rw [reports, if_neg h]

/-- A report is that of the first part, or one of a part behind it. -/
theorem mem_reports_cons {front : List Char} {part : Part} {rest : List Part} {r : Report} :
    r ∈ reports front (part :: rest) ↔
      (part.role ≠ .silent ∧ r = ⟨front, part.role, part.chars, rest.flatMap (·.chars)⟩) ∨
        r ∈ reports (front ++ part.chars) rest := by
  by_cases hsilent : part.role = .silent
  · simp [reports_silent hsilent, hsilent]
  · simp [reports_loud hsilent, hsilent]

/-- Nothing silent is reported. -/
theorem reports_ne_silent (ps : List Part) : ∀ front, ∀ r ∈ reports front ps, r.role ≠ .silent := by
  induction ps with
  | nil => exact fun front => List.forall_mem_nil _
  | cons part rest ih =>
    intro front r hr
    rcases mem_reports_cons.mp hr with ⟨hloud, rfl⟩ | hr
    · exact hloud
    · exact ih _ r hr

/-- Front, part and rest are all that has been read. -/
theorem reports_cut (ps : List Part) :
    ∀ front, ∀ r ∈ reports front ps,
      r.front ++ r.own ++ r.behind = front ++ ps.flatMap (·.chars) := by
  induction ps with
  | nil => exact fun front => List.forall_mem_nil _
  | cons part rest ih =>
    intro front r hr
    rw [List.flatMap_cons, ← List.append_assoc]
    rcases mem_reports_cons.mp hr with ⟨-, rfl⟩ | hr
    · rfl
    · exact ih _ r hr

/-! ## Events -/

/-- The events of parts behind an open event. The last one is complete at the end of the document, and lost
at a fault. -/
def assembled (place : Place) (current : Option Open) (ps : List Part) (fault : Option Fault) : List Event :=
  (assemble place current ps).1 ++
    if fault = none then ((assemble place current ps).2.map Open.complete).toList else []

/-- The events of a document are those of its parts. -/
theorem read_events_eq (html : String) :
    (read html).events =
      assembled .start none (parts none html.toList).1 (parts none html.toList).2 := by
  unfold read assembled
  cases hparts : parts none html.toList with
  | mk ps fault => cases fault <;> simp

variable {place : Place} {current : Option Open} {part : Part} {rest : List Part} {fault : Option Fault}

theorem assembled_nil (place : Place) (current : Option Open) (fault : Option Fault) :
    assembled place current [] fault =
      if fault = none then (current.map Open.complete).toList else [] :=
  rfl

/-- A part that continues the open event makes it longer. -/
theorem assembled_joins (h : continues current part.role = true) :
    assembled place current (part :: rest) fault =
      assembled (part.chars.foldl Place.after place) (Parser.grown part.chars current) rest fault := by
  unfold assembled
  rw [Parser.assemble_cons, h]
  rfl

/-- Any other part completes the open event, and opens its own. -/
theorem assembled_opens (h : continues current part.role = false) :
    assembled place current (part :: rest) fault =
      (current.map Open.complete).toList ++
        assembled (part.chars.foldl Place.after place) (some ⟨place, part.role, part.chars⟩) rest fault := by
  unfold assembled
  rw [Parser.assemble_cons, h]
  exact List.append_assoc _ _ _

/-- A part continues the open event only when it is silent, or when both are texts. -/
theorem continues_iff {current : Option Open} {role : Role} :
    continues current role = true ↔ role = .silent ∨ ∃ o ∈ current, o.role = .text ∧ role = .text := by
  cases current <;> cases role <;> simp [continues]

theorem continues_eq_false_iff {current : Option Open} {role : Role} :
    continues current role = false ↔
      role ≠ .silent ∧ ∀ o ∈ current, ¬ (o.role = .text ∧ role = .text) := by
  rw [← Bool.not_eq_true, continues_iff, not_or, not_exists]
  simp only [not_and]

/-- An event that grows keeps its place and its role. -/
theorem grown_some (w : List Char) (o : Open) :
    Parser.grown w (some o) = some ⟨o.place, o.role, o.chars ++ w⟩ :=
  rfl

/-- **The open event comes first**, perhaps with more characters. -/
theorem assembled_some_of_complete (ps : List Part) :
    ∀ (place : Place) (o : Open), ∃ w es,
      assembled place (some o) ps none = Open.complete ⟨o.place, o.role, o.chars ++ w⟩ :: es := by
  induction ps with
  | nil =>
    intro place o
    exact ⟨[], [], by rw [List.append_nil]; rfl⟩
  | cons part rest ih =>
    intro place o
    cases hcontinues : continues (some o) part.role with
    | true =>
      obtain ⟨w, es, hes⟩ := ih (part.chars.foldl Place.after place) ⟨o.place, o.role, o.chars ++ part.chars⟩
      refine ⟨part.chars ++ w, es, ?_⟩
      rw [assembled_joins hcontinues, grown_some, hes, List.append_assoc]
    | false =>
      rw [assembled_opens hcontinues]
      exact ⟨[], _, by rw [List.append_nil]; rfl⟩

/-- A tag or a comment opens an event, whatever is open. -/
def Role.marks : Role → Bool
  | .text | .silent => false
  | _ => true

theorem Role.kind_eq_text_iff (role : Role) : role.kind = .text ↔ role.marks = false := by
  cases role <;> simp [Role.kind, Role.marks]

theorem continues_of_marks {role : Role} (h : role.marks = true) (current : Option Open) :
    continues current role = false := by
  cases role with
  | text => cases h
  | silent => cases h
  | _ => rfl

/-- **An event that is no text is opened by a part of its own**: it and the events behind it are those of
the parts from there on, unless it was open before. -/
theorem assembled_split (ps : List Part) :
    ∀ {front : List Char} {current : Option Open} {es fs : List Event} {e : Event}, e.kind ≠ .text →
      assembled (Place.reached front) current ps none = es ++ e :: fs →
      (es = [] ∧ ∃ o ∈ current, ∃ w, e = Open.complete ⟨o.place, o.role, o.chars ++ w⟩) ∨
      ∃ earlier part later, ps = earlier ++ part :: later ∧ part.role.marks = true ∧
        assembled (Place.reached (front ++ earlier.flatMap (·.chars) ++ part.chars))
          (some ⟨Place.reached (front ++ earlier.flatMap (·.chars)), part.role, part.chars⟩) later none =
          e :: fs := by
  induction ps with
  | nil =>
    intro front current es fs e _ hes
    cases current with
    | none => exact absurd hes (by simp [assembled_nil])
    | some o =>
      rw [assembled_nil, if_pos rfl] at hes
      obtain ⟨rfl, he, -⟩ : es = [] ∧ o.complete = e ∧ fs = [] := by
        cases es with
        | nil => simpa using hes
        | cons d es => exact absurd hes (by simp)
      exact Or.inl ⟨rfl, o, rfl, [], by rw [List.append_nil]; exact he.symm⟩
  | cons part rest ih =>
    intro front current es fs e hkind hes
    cases hcontinues : continues current part.role with
    | true =>
      rw [assembled_joins hcontinues, ← Place.reached_append] at hes
      rcases ih hkind hes with ⟨hnil, o, ho, w, he⟩ | ⟨earlier, p, later, hps, hmarks, hlater⟩
      · obtain ⟨o, rfl, rfl⟩ := Option.map_eq_some_iff.mp ho
        exact Or.inl ⟨hnil, o, rfl, part.chars ++ w, by rw [he, List.append_assoc]⟩
      · refine Or.inr ⟨part :: earlier, p, later, by rw [hps, List.cons_append], hmarks, ?_⟩
        rw [List.flatMap_cons, ← List.append_assoc]
        exact hlater
    | false =>
      rw [assembled_opens hcontinues, ← Place.reached_append] at hes
      -- the part's own event, or one behind it
      have hopened : ∀ {es}, assembled (Place.reached (front ++ part.chars))
          (some ⟨Place.reached front, part.role, part.chars⟩) rest none = es ++ e :: fs →
          ∃ earlier p later, part :: rest = earlier ++ p :: later ∧ p.role.marks = true ∧
            assembled (Place.reached (front ++ earlier.flatMap (·.chars) ++ p.chars))
              (some ⟨Place.reached (front ++ earlier.flatMap (·.chars)), p.role, p.chars⟩) later none =
              e :: fs := by
        intro es hes
        rcases ih hkind hes with ⟨rfl, o, ho, w, he⟩ | ⟨earlier, p, later, hps, hmarks, hlater⟩
        · cases ho
          have hmarks : part.role.marks = true := by
            rw [he] at hkind
            exact Bool.eq_true_of_not_eq_false (mt part.role.kind_eq_text_iff.mpr hkind)
          refine ⟨[], part, rest, rfl, hmarks, ?_⟩
          rw [List.flatMap_nil, List.append_nil]
          exact hes
        · refine ⟨part :: earlier, p, later, by rw [hps, List.cons_append], hmarks, ?_⟩
          rw [List.flatMap_cons, ← List.append_assoc]
          exact hlater
      cases current with
      | none => exact Or.inr (hopened hes)
      | some o =>
        cases es with
        | nil =>
          refine Or.inl ⟨rfl, o, rfl, [], ?_⟩
          rw [List.append_nil]
          exact (List.cons.inj hes).1.symm
        | cons d es => exact Or.inr (hopened (List.cons.inj hes).2)

end WordLint.Markup
