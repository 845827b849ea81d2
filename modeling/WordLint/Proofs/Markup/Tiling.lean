import WordLint.Proofs.Markup.Hearing
import WordLint.Proofs.Markup.Parts
import WordLint.Proofs.Markup.Place

/-!
# Events tile the document

An event is complete only when the next one opens, and its place is taken down when it opens itself.
`Tiles before es doc` says what comes of this: from the front `before` on, the events `es` lie one
behind the other up to the end of `doc`, each at the place reached so far and none of them empty.

**What one step keeps**: `assemble_tiles_open` goes through the parts behind an open event, one part at
a time; a part either lengthens the open event or completes it and opens the next. **What a whole run
keeps**: `read_tiles`, for every document that can be read to its end.

The laws about line, column and markup are read off the tiling: `events_partition` recovers every event
from the document and the places alone, and `markup_covers_iff` says for which documents the events
hold all of the document. **What is not covered**: the end tags without a name at the very front open no
event and follow on none, so their characters are in no event (`emptyEnd_uncovered`).
-/

namespace WordLint.Markup

/-! ## Tilings -/

/-- From the front `before` on, the events lie one behind the other up to the end of the document. -/
def Tiles (before : List Char) : List Event → List Char → Prop
  | [], doc => before = doc
  | e :: es, doc =>
    e.line = (Place.reached before).line ∧ e.col = (Place.reached before).col ∧ e.raw ≠ "" ∧
      Tiles (before ++ e.raw.toList) es doc

/-- The positions at which the events behind a front start. -/
def startsFrom (before : List Char) : List Event → List Nat
  | [] => []
  | e :: es => before.length :: startsFrom (before ++ e.raw.toList) es

variable {before doc : List Char} {es : List Event}

/-- The markup of the events is what stands behind the front. -/
theorem Tiles.markup (h : Tiles before es doc) : before ++ es.flatMap (·.raw.toList) = doc := by
  induction es generalizing before with
  | nil =>
    rw [List.flatMap_nil, List.append_nil]
    exact h
  | cons e es ih =>
    obtain ⟨_, _, _, hrest⟩ := h
    rw [List.flatMap_cons, ← List.append_assoc]
    exact ih hrest

/-- Line and column of each event give the position at which it starts. -/
theorem Tiles.positions (h : Tiles before es doc) :
    es.map (fun e => position? doc e.line e.col) = (startsFrom before es).map some := by
  induction es generalizing before with
  | nil => rfl
  | cons e es ih =>
    obtain ⟨hline, hcol, _, hrest⟩ := h
    have hdoc : before ++ (e.raw.toList ++ es.flatMap (·.raw.toList)) = doc := by
      rw [← List.append_assoc]
      exact hrest.markup
    rw [List.map_cons, ih hrest, hline, hcol, ← hdoc, position?_reached]
    rfl

/-- No event starts before the front ends, and the document ends behind all of them. -/
theorem Tiles.le_of_mem (h : Tiles before es doc) :
    ∀ n ∈ startsFrom before es ++ [doc.length], before.length ≤ n := by
  intro n hn
  induction es generalizing before with
  | nil =>
    have heq : before.length = n := (congrArg List.length h).trans (List.mem_singleton.mp hn).symm
    exact Nat.le_of_eq heq
  | cons e es ih =>
    rcases List.mem_cons.mp hn with rfl | hn
    · exact Nat.le_refl _
    · have hle := ih h.2.2.2 hn
      rw [List.length_append] at hle
      omega

/-- No event of a tiling is empty. -/
theorem Tiles.raw_ne_empty (h : Tiles before es doc) : ∀ e ∈ es, e.raw ≠ "" := by
  induction es generalizing before with
  | nil => exact fun e he => nomatch he
  | cons e es ih =>
    intro f hf
    rcases List.mem_cons.mp hf with rfl | hf
    · exact h.2.2.1
    · exact ih h.2.2.2 f hf

/-- Each event of a tiling stands in the document at the position that its line and column give. -/
theorem Tiles.standing (h : Tiles before es doc) :
    ∀ e ∈ es, ∃ n, position? doc e.line e.col = some n ∧ e.raw.toList <+: doc.drop n := by
  induction es generalizing before with
  | nil => exact fun e he => nomatch he
  | cons e es ih =>
    intro f hf
    rcases List.mem_cons.mp hf with rfl | hf
    · obtain ⟨hline, hcol, _, hrest⟩ := h
      have hdoc : before ++ (f.raw.toList ++ es.flatMap (·.raw.toList)) = doc := by
        rw [← List.append_assoc]
        exact hrest.markup
      refine ⟨before.length, ?_, ?_⟩
      · rw [hline, hcol, ← hdoc]
        exact position?_reached _ _
      · rw [← hdoc, List.drop_left]
        exact List.prefix_append _ _
    · exact ih h.2.2.2 f hf

theorem toList_ne_nil {s : String} (h : s ≠ "") : s.toList ≠ [] := by
  intro hnil
  exact h (String.toList_inj.mp hnil)

/-- The starts increase, and the last one is inside the document. -/
theorem Tiles.increasing (h : Tiles before es doc) :
    (startsFrom before es ++ [doc.length]).Pairwise (· < ·) := by
  induction es generalizing before with
  | nil => exact List.pairwise_singleton _ _
  | cons e es ih =>
    obtain ⟨_, _, hraw, hrest⟩ := h
    refine List.Pairwise.cons ?_ (ih hrest)
    intro n hn
    have hle := hrest.le_of_mem n hn
    have hpos := List.length_pos_iff.mpr (toList_ne_nil hraw)
    rw [List.length_append] at hle
    omega

/-- The document between two positions. -/
def slice (doc : List Char) (start stop : Nat) : List Char :=
  (doc.take stop).drop start

/-- The markup of each event is the document from its own start to the next one's. -/
theorem Tiles.slices (h : Tiles before es doc) :
    es.map (·.raw.toList) = List.zipWith (slice doc) (startsFrom before es)
      ((startsFrom before es).tail ++ [doc.length]) := by
  induction es generalizing before with
  | nil => rfl
  | cons e es ih =>
    obtain ⟨_, _, _, hrest⟩ := h
    have hdoc := hrest.markup
    -- where the next event starts, or the document ends
    have hnext : startsFrom (before ++ e.raw.toList) es ++ [doc.length] =
        (before ++ e.raw.toList).length ::
          ((startsFrom (before ++ e.raw.toList) es).tail ++ [doc.length]) ∨
        es = [] ∧ (before ++ e.raw.toList).length = doc.length := by
      cases es with
      | nil => exact Or.inr ⟨rfl, congrArg List.length hrest⟩
      | cons next es => exact Or.inl rfl
    have hslice : slice doc before.length (before ++ e.raw.toList).length = e.raw.toList := by
      unfold slice
      rw [← hdoc, List.take_left, List.drop_left]
    rw [List.map_cons, ih hrest, startsFrom, List.tail_cons]
    rcases hnext with hnext | ⟨rfl, hlength⟩
    · rw [hnext, List.zipWith_cons_cons, hslice]
    · rw [← hlength]
      simp only [startsFrom, List.nil_append, List.zipWith_cons_cons, hslice, List.tail_nil]
      rfl

/-! ## What assembling keeps -/

/-- Behind an open event, the parts complete a tiling that starts where the event opened. -/
theorem assemble_tiles_open (ps : List Part) (hps : ∀ part ∈ ps, part.chars ≠ []) :
    ∀ (before : List Char) (o : Open), o.place = Place.reached before → o.chars ≠ [] →
      Tiles before
        ((assemble (Place.reached (before ++ o.chars)) (some o) ps).1 ++
          ((assemble (Place.reached (before ++ o.chars)) (some o) ps).2.map Open.complete).toList)
        (before ++ o.chars ++ ps.flatMap (·.chars)) := by
  induction ps with
  | nil =>
    intro before o hplace hchars
    refine ⟨by rw [← hplace]; rfl, by rw [← hplace]; rfl, ?_, ?_⟩
    · intro hempty
      exact hchars (by simpa [Open.complete] using hempty)
    · simp [Tiles, Open.complete]
  | cons part rest ih =>
    intro before o hplace hchars
    have hpart := hps part List.mem_cons_self
    have hrest := fun p hp => hps p (List.mem_cons_of_mem _ hp)
    rw [List.flatMap_cons, ← List.append_assoc]
    unfold assemble
    by_cases hcontinues : continues (some o) part.role = true
    · -- the open event grows by the part
      have hgrown := ih hrest before { o with chars := o.chars ++ part.chars } hplace (by simp [hchars])
      simp only [hcontinues, if_true, Option.map_some]
      rw [← Place.reached_append, List.append_assoc before]
      exact hgrown
    · -- the open event is complete, and the part opens the next one
      have hnext := ih hrest (before ++ o.chars)
        ⟨Place.reached (before ++ o.chars), part.role, part.chars⟩ rfl hpart
      simp only [hcontinues]
      rw [← Place.reached_append]
      refine ⟨by rw [← hplace]; rfl, by rw [← hplace]; rfl, ?_, ?_⟩
      · intro hempty
        exact hchars (by simpa [Open.complete] using hempty)
      · simpa [Open.complete] using hnext

/-- Before any event is open, silent parts are passed over; the tiling starts behind them. -/
theorem assemble_tiles (ps : List Part) (hps : ∀ part ∈ ps, part.chars ≠ []) :
    ∀ before : List Char,
      Tiles (before ++ (ps.takeWhile (·.role == .silent)).flatMap (·.chars))
        ((assemble (Place.reached before) none ps).1 ++
          ((assemble (Place.reached before) none ps).2.map Open.complete).toList)
        (before ++ ps.flatMap (·.chars)) := by
  induction ps with
  | nil =>
    intro before
    rfl
  | cons part rest ih =>
    intro before
    have hpart := hps part List.mem_cons_self
    have hrest := fun p hp => hps p (List.mem_cons_of_mem _ hp)
    unfold assemble
    by_cases hsilent : part.role = .silent
    · have hcontinues : continues none part.role = true := by rw [hsilent]; rfl
      have hmore := ih hrest (before ++ part.chars)
      simp only [hcontinues, if_true, Option.map_none]
      rw [List.takeWhile_cons_of_pos (by simp [hsilent]), List.flatMap_cons, List.flatMap_cons,
        ← List.append_assoc, ← List.append_assoc, ← Place.reached_append]
      exact hmore
    · have hcontinues : continues none part.role = false := by
        cases hrole : part.role with
        | silent => exact absurd hrole hsilent
        | _ => rfl
      have hopen := assemble_tiles_open rest hrest before ⟨Place.reached before, part.role, part.chars⟩
        rfl hpart
      simp only [hcontinues]
      rw [List.takeWhile_cons_of_neg (by simp [hsilent]), List.flatMap_nil, List.append_nil,
        ← Place.reached_append, List.flatMap_cons, ← List.append_assoc]
      exact hopen

/-- Reading stops at the fault that cuts the parts short. -/
theorem read_fault (html : String) : (read html).fault = (parts none html.toList).2 := by
  unfold read
  cases hparts : parts none html.toList with
  | mk ps fault => cases fault <;> rfl

/-- Without a fault the last event is completed at the end of the document. -/
theorem read_events {html : String} (h : (read html).fault = none) :
    (read html).events = (assemble .start none (parts none html.toList).1).1 ++
      ((assemble .start none (parts none html.toList).1).2.map Open.complete).toList := by
  rw [read_fault] at h
  unfold read
  cases hparts : parts none html.toList with
  | mk ps fault =>
    rw [hparts] at h
    cases h
    rfl

/-- **The events of a document tile it** behind the silent parts at its front. -/
theorem read_tiles {html : String} (h : (read html).fault = none) :
    ∃ front, Tiles front (read html).events html.toList ∧
      front ++ withoutEmptyEnds html.toList = html.toList := by
  have hfault := (read_fault html).symm.trans h
  have hchars := parts_chars_of_complete hfault
  have htiles := assemble_tiles (parts none html.toList).1 (parts_ne_nil none html.toList) []
  rw [List.nil_append, List.nil_append, hchars] at htiles
  refine ⟨((parts none html.toList).1.takeWhile (·.role == .silent)).flatMap (·.chars), ?_, ?_⟩
  · rw [read_events h]
    exact htiles
  · rw [← parts_silent_front html.toList hfault, ← List.flatMap_append,
      List.takeWhile_append_dropWhile, hchars]

/-! ## Places and markup -/

/-- The markup of the events is the document without the empty end tags that it starts with. -/
theorem read_markup {html : String} (h : (read html).fault = none) :
    (read html).events.flatMap (·.raw.toList) = withoutEmptyEnds html.toList := by
  obtain ⟨front, htiles, hfront⟩ := read_tiles h
  exact List.append_cancel_left (htiles.markup.trans hfront.symm)

/-- **The events are a partition of the document.** What a receiver of all events hears has places whose
positions increase and stay inside the document, and the markup of each event is the document from its
own position to the next one's; that of the last event goes on to the end. So no markup is empty, none
overlaps another, and nothing behind the start of the first event is lost. -/
theorem events_partition (receiver html : String) (h : (read html).fault = none) :
    ∃ starts : List Nat,
      (Audience.heard receiver html).map (fun e => position? html.toList e.line e.col) =
        starts.map some ∧
      (starts ++ [html.length]).Pairwise (· < ·) ∧
      (Audience.heard receiver html).map (·.raw.toList) =
        List.zipWith (slice html.toList) starts (starts.tail ++ [html.length]) ∧
      (∀ e ∈ Audience.heard receiver html, e.raw ≠ "") ∧
      ∀ first ∈ starts.head?,
        (Audience.heard receiver html).flatMap (·.raw.toList) = html.toList.drop first := by
  obtain ⟨front, htiles, _⟩ := read_tiles h
  rw [Audience.heard_eq, ← String.length_toList]
  refine ⟨startsFrom front (read html).events, htiles.positions, htiles.increasing, htiles.slices,
    htiles.raw_ne_empty, ?_⟩
  intro first hfirst
  have hlength : first = front.length := by
    cases hevents : (read html).events with
    | nil =>
      rw [hevents] at hfirst
      cases hfirst
    | cons e es =>
      rw [hevents] at hfirst
      cases hfirst
      rfl
  have hmarkup := htiles.markup
  rw [hlength, ← hmarkup, List.drop_left]

/-- The partition of a document of several lines with an end tag without a name in front. -/
theorem events_partition_lines :
    (read "</><p\n>a</>").fault = none ∧ ∃ starts : List Nat,
      (Audience.heard "r" "</><p\n>a</>").map
          (fun e => position? "</><p\n>a</>".toList e.line e.col) = starts.map some ∧
      (starts ++ ["</><p\n>a</>".length]).Pairwise (· < ·) ∧
      (Audience.heard "r" "</><p\n>a</>").map (·.raw.toList) =
        List.zipWith (slice "</><p\n>a</>".toList) starts
          (starts.tail ++ ["</><p\n>a</>".length]) ∧
      (∀ e ∈ Audience.heard "r" "</><p\n>a</>", e.raw ≠ "") ∧
      ∀ first ∈ starts.head?,
        (Audience.heard "r" "</><p\n>a</>").flatMap (·.raw.toList) =
          "</><p\n>a</>".toList.drop first := by
  have h : (read "</><p\n>a</>").fault = none := by cbv
  exact ⟨h, events_partition "r" _ h⟩

/-! ## Which documents the events hold -/

/-- A document is as it was without its empty end tags in front only when there are none. -/
theorem withoutEmptyEnds_eq_iff (cs : List Char) :
    withoutEmptyEnds cs = cs ↔ ¬ ['<', '/', '>'] <+: cs := by
  have hle : ∀ ds : List Char, (withoutEmptyEnds ds).length ≤ ds.length := by
    intro ds
    induction ds using withoutEmptyEnds.induct with
    | case1 rest ih =>
      rw [withoutEmptyEnds]
      simp only [List.length_cons]
      omega
    | case2 ds hother => exact Nat.le_of_eq (congrArg List.length (withoutEmptyEnds_of_ne hother))
  constructor
  · rintro heq ⟨rest, rfl⟩
    have hlength := congrArg List.length heq
    have hrest := hle rest
    simp only [List.cons_append, List.nil_append, withoutEmptyEnds, List.length_cons] at hlength
    omega
  · intro hstart
    exact withoutEmptyEnds_of_ne fun rest hrest => hstart ⟨rest, hrest.symm⟩

/-- **Which documents the events hold**: the markup of the events is the document without the empty end
tags that it starts with, so it is the document exactly when it does not start with one. -/
theorem markup_covers_iff (html : String) (h : (read html).fault = none) :
    String.join ((read html).events.map (·.raw)) = String.ofList (withoutEmptyEnds html.toList) ∧
      (String.join ((read html).events.map (·.raw)) = html ↔ ¬ ['<', '/', '>'] <+: html.toList) := by
  have hjoin : String.join ((read html).events.map (·.raw)) =
      String.ofList (withoutEmptyEnds html.toList) := by
    rw [← String.toList_inj, String.toList_join, String.toList_ofList, List.flatMap_map]
    exact read_markup h
  refine ⟨hjoin, ?_⟩
  rw [hjoin, ← withoutEmptyEnds_eq_iff, ← String.toList_inj, String.toList_ofList]

/-- An end tag without a name at the front of a document is in no event. -/
theorem emptyEnd_uncovered :
    (read "</>").fault = none ∧ String.join ((read "</>").events.map (·.raw)) ≠ "</>" := by
  have hfault : (read "</>").fault = none := by cbv
  have hevents : (read "</>").events = [] := by cbv
  refine ⟨hfault, ?_⟩
  rw [hevents]
  decide

/-- The markup of a document whose empty end tag stands behind its first event. -/
theorem markup_covers_behind :
    (read "a</>").fault = none ∧
      String.join ((read "a</>").events.map (·.raw)) =
        String.ofList (withoutEmptyEnds "a</>".toList) ∧
      (String.join ((read "a</>").events.map (·.raw)) = "a</>" ↔
        ¬ ['<', '/', '>'] <+: "a</>".toList) := by
  have h : (read "a</>").fault = none := by cbv
  exact ⟨h, markup_covers_iff "a</>" h⟩

end WordLint.Markup
