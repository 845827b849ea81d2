import WordLint.Proofs.Markup.Closing
import WordLint.Proofs.Markup.Hearing

/-!
# What the events of tags and comments hold

An event goes on to the place where the next construct is reported. For a tag or a comment that is its own
end, unless something silent follows: end tags without a name, or the content of a script that is never closed.

**The law** (`marks_markup`): the events that are no texts are those of the tags and comments of the document,
one for each and in order. The markup of each event begins with the tag or comment itself, from its `<` to its
`>`, and is just that exactly when what follows is reported (`Report.Bounded`).

**What does not hold**: an event may hold more than its own tag (`unclosed_script_in_tag`).

`silence` says which characters are silent at the front of content, without cutting the content into parts;
`silentFront_parts` is its agreement with the parts.
-/

namespace WordLint.Markup

/-! ## Silent parts behind a tag or comment -/

/-- The end tags without a name at the front. -/
def emptyEnds : List Char → List Char
  | '<' :: '/' :: '>' :: rest => '<' :: '/' :: '>' :: emptyEnds rest
  | _ => []

theorem emptyEnds_append (cs : List Char) : emptyEnds cs ++ withoutEmptyEnds cs = cs := by
  fun_induction emptyEnds cs with
  | case1 rest ih => rw [withoutEmptyEnds, List.cons_append, List.cons_append, List.cons_append, ih]
  | case2 cs hother => rw [List.nil_append, withoutEmptyEnds_of_ne hother]

/-- What is silent at the front of content: end tags without a name, and inside a raw element that is never
closed all that remains. -/
def silence (inside : Inside) (cs : List Char) : List Char :=
  match inside with
  | none => emptyEnds cs
  | some name => if lengthBefore? name.toList cs = none then cs else []

/-- The characters of the silent parts at the front. -/
def silentFront (ps : List Part) : List Char :=
  (ps.takeWhile (·.role == .silent)).flatMap (·.chars)

theorem silentFront_silent {part : Part} (h : part.role = .silent) (ps : List Part) :
    silentFront (part :: ps) = part.chars ++ silentFront ps := by
  unfold silentFront
  rw [List.takeWhile_cons_of_pos (by rw [h]; rfl), List.flatMap_cons]

theorem silentFront_loud {part : Part} (h : part.role ≠ .silent) (ps : List Part) :
    silentFront (part :: ps) = [] := by
  unfold silentFront
  rw [List.takeWhile_cons_of_neg (by rw [beq_iff_eq]; exact h), List.flatMap_nil]

/-- What stands at the front of raw content is silent only when the content is never closed. -/
theorem ofRaw_silent_iff (name : String) (cs : List Char) :
    (Piece.ofRaw name cs).1.role = .silent ↔ lengthBefore? name.toList cs = none := by
  unfold Piece.ofRaw
  split
  · rename_i h
    simp [h, Piece.ofLength]
  · rename_i h
    simp [h]
  · rename_i h
    split
    · simp [h]
    · split <;> simp [h, Piece.ofLength]

/-- The silent parts at the front of a document that can be read. -/
theorem silentFront_parts {inside : Inside} {cs : List Char} (h : (parts inside cs).2 = none) :
    silentFront (parts inside cs).1 = silence inside cs := by
  cases inside with
  | none =>
    have hfront := parts_silent_front cs h
    have hall := parts_chars_of_complete h
    rw [← List.takeWhile_append_dropWhile (p := (·.role == .silent)) (l := (parts none cs).1),
      List.flatMap_append, hfront] at hall
    exact List.append_cancel_right (hall.trans (emptyEnds_append cs).symm)
  | some name =>
    cases cs with
    | nil => rw [parts_nil, silence, ite_self, silentFront, List.takeWhile_nil, List.flatMap_nil]
    | cons c rest =>
      have hsilent := ofRaw_silent_iff name (c :: rest)
      have hfirst : Piece.first (some name) c rest =
          .ok ((Piece.ofRaw name (c :: rest)).1, (Piece.ofRaw name (c :: rest)).2) := rfl
      rw [silence, parts_cons hfirst]
      by_cases hrole : (Piece.ofRaw name (c :: rest)).1.role = .silent
      · have hextra : (Piece.ofRaw name (c :: rest)).1.extra = rest.length := by
          rw [Piece.ofRaw, hsilent.mp hrole]
          rfl
        rw [if_pos (hsilent.mp hrole), silentFront_silent hrole, hextra, List.take_length, List.drop_length,
          parts_nil]
        exact List.append_nil _
      · rw [if_neg (mt hsilent.mpr hrole), silentFront_loud hrole]

/-! ## Tags and comments -/

/-- What belongs to the event of a report beyond its own characters. -/
def Report.trail (r : Report) : List Char :=
  silence r.role.inside r.behind

/-- The event of a tag or comment. -/
def Report.event (r : Report) : Event :=
  Open.complete ⟨Place.reached r.front, r.role, r.own ++ r.trail⟩

/-- The tags and comments among reports. -/
def marksOf (rs : List Report) : List Report :=
  rs.filter (·.role.marks)

/-- The tags and comments of a document, in order. -/
def marks (html : String) : List Report :=
  marksOf (reported html)

/-- An event is no text. -/
def isMark (e : Event) : Bool :=
  e.kind != .text

theorem isMark_complete (o : Open) : isMark o.complete = o.role.marks := by
  obtain ⟨place, role, chars⟩ := o
  cases role <;> rfl

/-- The event of a tag or comment that is open, with the silent parts behind it. -/
def openMark (current : Option Open) (ps : List Part) : List Event :=
  match current with
  | none => []
  | some o => if o.role.marks then [Open.complete ⟨o.place, o.role, o.chars ++ silentFront ps⟩] else []

/-- Silent parts go to the open event. -/
theorem openMark_silent {part : Part} (h : part.role = .silent) (current : Option Open) (ps : List Part) :
    openMark (Parser.grown part.chars current) ps = openMark current (part :: ps) := by
  cases current with
  | none => rfl
  | some o =>
    rw [grown_some, openMark, openMark, silentFront_silent h, List.append_assoc]

/-- An open event to which nothing is added. -/
theorem openMark_of_silentFront {ps : List Part} (h : silentFront ps = []) (current : Option Open) :
    openMark current ps = (current.map Open.complete).toList.filter isMark := by
  cases current with
  | none => rfl
  | some o =>
    rw [openMark, h, List.append_nil, Option.map_some, Option.toList_some, List.filter_singleton,
      isMark_complete]
    cases o.role.marks <;> rfl

theorem marksOf_cons {r : Report} (h : r.role.marks = true) (rs : List Report) :
    marksOf (r :: rs) = r :: marksOf rs :=
  List.filter_cons_of_pos h

theorem marksOf_cons_text {r : Report} (h : r.role.marks = false) (rs : List Report) :
    marksOf (r :: rs) = marksOf rs :=
  List.filter_cons_of_neg (Bool.eq_false_iff.mp h)

/-- **Each tag or comment makes an event of its own**, and no other event is one. -/
theorem assembled_marks (inside : Inside) (cs : List Char) (h : (parts inside cs).2 = none) :
    ∀ (front : List Char) (current : Option Open),
      (assembled (Place.reached front) current (parts inside cs).1 none).filter isMark =
        openMark current (parts inside cs).1 ++
          (marksOf (reports front (parts inside cs).1)).map Report.event := by
  induction inside, cs using parts.induct with
  | case1 inside =>
    intro front current
    rw [parts_nil, openMark_of_silentFront rfl]
    exact (List.append_nil _).symm
  | case2 inside c rest fault hfirst =>
    rw [parts_fault hfirst] at h
    cases h
  | case3 inside c rest piece next hfirst ih =>
    intro front current
    rw [parts_cons hfirst] at h ⊢
    have hsilent := silentFront_parts h
    have hbehind := parts_chars_of_complete h
    have hrest := ih h
    dsimp only
    generalize (parts next (rest.drop piece.extra)).1 = ps at hsilent hbehind hrest
    cases hcontinues : continues current piece.role with
    | true =>
      rw [assembled_joins hcontinues, ← Place.reached_append, hrest]
      rcases continues_iff.mp hcontinues with hrole | ⟨o, rfl, ho, hrole⟩
      · rw [openMark_silent hrole, reports_silent hrole]
      · have hloud : piece.role ≠ .silent := by
          rw [hrole]
          exact Role.noConfusion
        rw [reports_loud hloud, marksOf_cons_text (by rw [hrole]; rfl), grown_some, openMark, openMark, ho]
        rfl
    | false =>
      obtain ⟨hloud, -⟩ := continues_eq_false_iff.mp hcontinues
      rw [assembled_opens hcontinues, ← Place.reached_append, List.filter_append, hrest,
        openMark_of_silentFront (silentFront_loud hloud ps), reports_loud hloud]
      rw [List.append_cancel_left_eq]
      cases hmarks : piece.role.marks with
      | false =>
        rw [marksOf_cons_text hmarks, openMark, if_neg (Bool.eq_false_iff.mp hmarks), List.nil_append]
      | true =>
        obtain ⟨-, -, rfl⟩ := first_closes hfirst hmarks
        rw [marksOf_cons hmarks, openMark, if_pos hmarks, List.map_cons, Report.event, Report.trail, hbehind,
          hsilent]
        rfl

/-- **A tag or comment is what stands between its `<` and its `>`.** -/
theorem marks_own (inside : Inside) (cs : List Char) :
    ∀ front, ∀ r ∈ marksOf (reports front (parts inside cs).1),
      r.own.head? = some '<' ∧ r.own.getLast? = some '>' := by
  induction inside, cs using parts.induct with
  | case1 inside =>
    rw [parts_nil]
    exact fun front => List.forall_mem_nil _
  | case2 inside c rest fault hfirst =>
    rw [parts_fault hfirst]
    exact fun front => List.forall_mem_nil _
  | case3 inside c rest piece next hfirst ih =>
    intro front r hr
    rw [parts_cons hfirst] at hr
    obtain ⟨hr, hmarks⟩ := List.mem_filter.mp hr
    rcases mem_reports_cons.mp hr with ⟨-, rfl⟩ | hr
    · obtain ⟨rfl, hclose, -⟩ := first_closes hfirst hmarks
      refine ⟨rfl, ?_⟩
      rw [List.getLast?_cons, hclose.getLast?]
      rfl
    · exact ih _ r (List.mem_filter.mpr ⟨hr, hmarks⟩)

/-- Front, tag or comment, and rest are the document, when it is read to its end. -/
theorem marks_cut {html : String} (hfault : (parts none html.toList).2 = none) :
    ∀ r ∈ marks html, r.front ++ r.own ++ r.behind = html.toList := by
  intro r hr
  have hcut := reports_cut _ _ r (List.mem_of_mem_filter hr)
  rw [List.nil_append, parts_chars_of_complete hfault] at hcut
  exact hcut

/-! ## What an event of a tag or comment holds -/

/-- What follows a tag or comment is reported: it is followed by no end tag without a name, and if it opens a
raw element, then the document ends with it or the element is closed, in whatever letters. -/
def Report.Bounded (r : Report) : Prop :=
  match r.role.inside with
  | none => ¬ ['<', '/', '>'] <+: r.behind
  | some name => r.behind = [] ∨ ∃ rest, rest <:+ r.behind ∧ (closing? name.toList rest).isSome = true

theorem emptyEnds_eq_nil_iff (cs : List Char) : emptyEnds cs = [] ↔ ¬ ['<', '/', '>'] <+: cs := by
  constructor
  · rintro h ⟨rest, rfl⟩
    rw [List.cons_append, List.cons_append, List.cons_append, emptyEnds] at h
    cases h
  · intro h
    rw [emptyEnds]
    rintro rest rfl
    exact h ⟨rest, rfl⟩

/-- No end tag is found exactly when none stands at any place. -/
theorem lengthBefore?_eq_none_iff (name cs : List Char) :
    lengthBefore? name cs = none ↔ ∀ rest, rest <:+ cs → closing? name rest = none := by
  induction cs with
  | nil =>
    refine iff_of_true rfl fun rest hrest => ?_
    rw [List.suffix_nil.mp hrest]
    rfl
  | cons c cs ih =>
    simp only [List.suffix_cons_iff, forall_eq_or_imp, ← ih]
    rw [lengthBefore?]
    cases hhere : closing? name (c :: cs) with
    | some found => simp
    | none => simp

/-- The event of a tag or comment holds just that exactly when what follows is reported. -/
theorem trail_eq_nil_iff (r : Report) : r.trail = [] ↔ r.Bounded := by
  unfold Report.trail Report.Bounded silence
  cases r.role.inside with
  | none => exact emptyEnds_eq_nil_iff r.behind
  | some name =>
    have hclosed : lengthBefore? name.toList r.behind ≠ none ↔
        ∃ rest, rest <:+ r.behind ∧ (closing? name.toList rest).isSome = true := by
      rw [Ne, lengthBefore?_eq_none_iff]
      simp only [not_forall, Option.isSome_iff_ne_none, exists_prop]
    dsimp only
    rw [← hclosed]
    by_cases hnone : lengthBefore? name.toList r.behind = none
    · rw [if_pos hnone]
      exact ⟨Or.inl, fun h => h.resolve_right (not_not_intro hnone)⟩
    · rw [if_neg hnone]
      exact iff_of_true rfl (Or.inr hnone)

/-- **What an event of a tag or comment holds.** In a document that is read to its end, the events that are no
texts are those of the tags and comments, one for each and in order. Every one of these stands between its
`<` and its `>`, and its event holds all of it. The event holds nothing else exactly when what follows the
tag or comment is reported. -/
theorem marks_markup (receiver html : String) (h : (read html).fault = none) :
    (Audience.heard receiver html).filter (·.kind != .text) = (marks html).map Report.event ∧
      ∀ r ∈ marks html,
        r.front ++ r.own ++ r.behind = html.toList ∧
        r.own.head? = some '<' ∧ r.own.getLast? = some '>' ∧
        r.own <+: r.event.raw.toList ∧ (r.event.raw.toList = r.own ↔ r.Bounded) := by
  have hfault := (read_fault html).symm.trans h
  have hraw : ∀ r : Report, r.event.raw.toList = r.own ++ r.trail := fun r => String.toList_ofList
  refine ⟨?_, fun r hr => ?_⟩
  · rw [Audience.heard_eq, read_events_eq, hfault]
    exact assembled_marks none html.toList hfault [] none
  · obtain ⟨hopen, hclose⟩ := marks_own none html.toList [] r hr
    refine ⟨marks_cut hfault r hr, hopen, hclose, ?_, ?_⟩
    · rw [hraw]
      exact List.prefix_append _ _
    · rw [hraw, List.append_right_eq_self, trail_eq_nil_iff]

/-- A tag that is followed by an end tag without a name, and one that is not. -/
theorem marks_markup_behind :
    (read "<p></></p>").fault = none ∧
      (marks "<p></></p>").map (fun r => (String.ofList r.own, r.event.raw)) =
        [("<p>", "<p></>"), ("</p>", "</p>")] ∧
      (Audience.heard "r" "<p></></p>").filter (·.kind != .text) = (marks "<p></></p>").map Report.event ∧
      ∀ r ∈ marks "<p></></p>",
        r.front ++ r.own ++ r.behind = "<p></></p>".toList ∧
        r.own.head? = some '<' ∧ r.own.getLast? = some '>' ∧
        r.own <+: r.event.raw.toList ∧ (r.event.raw.toList = r.own ↔ r.Bounded) := by
  have h : (read "<p></></p>").fault = none := by cbv
  exact ⟨h, by cbv, marks_markup "r" _ h⟩

/-- A script that is never closed goes to its start tag. -/
theorem unclosed_script_in_tag :
    (read "<script>a").fault = none ∧
      (marks "<script>a").map (fun r => (String.ofList r.own, String.ofList r.behind)) = [("<script>", "a")] ∧
      (Audience.heard "r" "<script>a").map (fun e => (e.kind, e.raw)) = [(.startTag, "<script>a")] := by
  refine ⟨by cbv, by cbv, ?_⟩
  rw [Audience.heard_eq]
  cbv

end WordLint.Markup
