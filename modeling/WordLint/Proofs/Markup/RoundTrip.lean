import WordLint.Proofs.Markup.Scanning
import WordLint.Proofs.Markup.Tiling

/-!
# Reading undoes writing

Tokens are written one behind the other, without anything between them. **The law** (`read_print`): the
document is read back as one event for each token, in order and with the token's own markup, exactly when
no text holds a reference that is too long. A reference of that kind stops the reading, however
well-formed the tokens are (`overlong_unread`); an attribute may hold it, because its value is escaped.

The parts of the document are those of the tokens (`parts_printed`). Each of them opens an event, because
no text follows on another one, and so assembling keeps them apart (`assemble_printed`).
-/

namespace WordLint.Markup

/-! ## Parts -/

/-- The part that a token is written as. -/
def Token.part (t : Token) : Part :=
  ⟨t.role, t.print⟩

/-- Behind a text the document ends, or markup begins. -/
theorem behind_text {t : Token} {ts : List Token} (h : WellFormed (t :: ts)) :
    t.isText = true → ∀ d ∈ (print ts).head?, d = '<' := by
  intro htext d hd
  cases ts with
  | nil => cases hd
  | cons u us =>
    have hapart : (t.isText && u.isText) = false := (List.isChain_cons_cons.mp h.texts_apart).1
    cases u with
    | text content =>
      rw [htext] at hapart
      cases hapart
    | _ =>
      cases hd
      rfl

/-- The parts of written tokens are their own ones. -/
theorem parts_printed (ts : List Token) (h : WellFormed ts) (hread : ∀ t ∈ ts, t.Readable) :
    parts none (print ts) = (ts.map Token.part, none) := by
  induction ts with
  | nil => exact parts_nil none
  | cons t ts ih =>
    have hrest := ih h.tail fun u hu => hread u (List.mem_cons_of_mem _ hu)
    unfold print
    rw [List.flatMap_cons]
    show parts none (t.print ++ print ts) = _
    rw [parts_print t (h.no_raw t List.mem_cons_self) (hread t List.mem_cons_self) (behind_text h), hrest]
    rfl

/-- One text with a reference that is too long is enough to stop the reading. -/
theorem fault_of_overlong (ts : List Token) (h : WellFormed ts) (hread : ∃ t ∈ ts, ¬ t.Readable) :
    (parts none (print ts)).2 ≠ none := by
  induction ts with
  | nil =>
    obtain ⟨t, ht, _⟩ := hread
    cases ht
  | cons t ts ih =>
    unfold print
    rw [List.flatMap_cons]
    show (parts none (t.print ++ print ts)).2 ≠ none
    by_cases hfirst : t.Readable
    · obtain ⟨u, hu, hunread⟩ := hread
      rcases List.mem_cons.mp hu with rfl | hu
      · exact absurd hfirst hunread
      · rw [parts_print t (h.no_raw t List.mem_cons_self) hfirst (behind_text h)]
        exact ih h.tail ⟨u, hu, hunread⟩
    · exact parts_overlong hfirst (behind_text h)

/-! ## Events -/

/-- A token that is not a text behind a text does not continue the event before it. -/
theorem continues_part {t u : Token} (place : Place) (h : (t.isText && u.isText) = false) :
    continues (some ⟨place, t.role, t.print⟩) u.role = false := by
  cases u with
  | text content =>
    cases t with
    | text content => cases h
    | _ => rfl
  | _ => rfl

/-- Behind the part of a token, each part completes the event before it and opens its own. -/
theorem assemble_printed (ts : List Token) :
    ∀ (t : Token) (place : Place), (t :: ts).IsChain (fun t u => (t.isText && u.isText) = false) →
      (assemble (t.print.foldl Place.after place) (some ⟨place, t.role, t.print⟩)
          (ts.map Token.part)).1 ++
        ((assemble (t.print.foldl Place.after place) (some ⟨place, t.role, t.print⟩)
          (ts.map Token.part)).2.map Open.complete).toList =
      eventsAt place (t :: ts) := by
  induction ts with
  | nil =>
    intro t place _
    show [Open.complete ⟨place, t.role, t.print⟩] = [t.eventAt place]
    rw [t.complete_eq_eventAt]
  | cons u us ih =>
    intro t place hchain
    obtain ⟨hapart, hrest⟩ := List.isChain_cons_cons.mp hchain
    have hnext := ih u (t.print.foldl Place.after place) hrest
    have hopens : continues (some ⟨place, t.role, t.print⟩) u.part.role = false :=
      continues_part place hapart
    rw [List.map_cons, assemble, hopens]
    show ([Open.complete ⟨place, t.role, t.print⟩] ++ _) ++ _ = _
    rw [List.append_assoc, t.complete_eq_eventAt]
    exact congrArg (t.eventAt place :: ·) hnext

/-- The parts of tokens are assembled to their events. -/
theorem assemble_tokens {ts : List Token} (h : WellFormed ts) :
    (assemble .start none (ts.map Token.part)).1 ++
      ((assemble .start none (ts.map Token.part)).2.map Open.complete).toList = eventsAt .start ts := by
  cases ts with
  | nil => rfl
  | cons t ts =>
    have hopens : continues none t.part.role = false := by
      cases t <;> rfl
    rw [List.map_cons, assemble, hopens]
    exact assemble_printed ts t .start h.texts_apart

/-- Tokens with readable references are read back as their events. -/
theorem read_of_readable {ts : List Token} (h : WellFormed ts) (hread : ∀ t ∈ ts, t.Readable) :
    read (String.ofList (print ts)) = ⟨eventsAt .start ts, none⟩ := by
  have hparts := parts_printed ts h hread
  have hfault : (read (String.ofList (print ts))).fault = none := by
    rw [read_fault, String.toList_ofList, hparts]
  have hevents : (read (String.ofList (print ts))).events = eventsAt .start ts := by
    rw [read_events hfault, String.toList_ofList, hparts]
    exact assemble_tokens h
  calc read (String.ofList (print ts))
      = ⟨(read (String.ofList (print ts))).events, (read (String.ofList (print ts))).fault⟩ := rfl
    _ = ⟨eventsAt .start ts, none⟩ := by rw [hevents, hfault]

/-- **Reading undoes writing**: the document of well-formed tokens is read to its end, with one event for
each token, exactly when no text among them holds a reference that is too long. -/
theorem read_print (ts : List Token) (h : WellFormed ts) :
    read (String.ofList (print ts)) = ⟨eventsAt .start ts, none⟩ ↔ ∀ t ∈ ts, t.Readable := by
  constructor
  · intro hread t ht
    by_contra hunread
    refine fault_of_overlong ts h ⟨t, ht, hunread⟩ ?_
    have hfault := read_fault (String.ofList (print ts))
    rw [hread, String.toList_ofList] at hfault
    exact hfault.symm
  · exact read_of_readable h

/-- A tag with two attributes of one name, a comment between two texts, and an end tag. -/
def sampleTokens : List Token :=
  [.startTag ⟨'B', ['-', '1'], rfl, rfl⟩
      [(⟨'X', [], rfl, rfl⟩, "a\">\n"), (⟨'x', [], rfl, rfl⟩, "&lt;")] true,
    .text ⟨['1', '&'], by decide, by decide⟩,
    .comment ⟨['>', '-', 'c'], by decide, by decide⟩,
    .text ⟨['&', 'a', 'm', 'p'], by decide, by decide⟩,
    .endTag ⟨'b', [], rfl, rfl⟩]

/-- The sample is written in quotes and references, and read back without them. -/
theorem read_print_sample :
    WellFormed sampleTokens ∧
      String.ofList (print sampleTokens) =
        "<B-1 X=\"a&quot;&gt;\n\" x=\"&amp;lt;\"/>1&<!-->-c-->&amp</b>" ∧
      read (String.ofList (print sampleTokens)) = ⟨eventsAt .start sampleTokens, none⟩ := by
  have hformed : WellFormed sampleTokens := by
    refine ⟨?_, ?_⟩
    · unfold sampleTokens
      simp only [List.isChain_cons_cons, List.isChain_singleton, and_true]
      decide
    · unfold sampleTokens
      simp only [List.forall_mem_cons]
      decide
  have hread : ∀ t ∈ sampleTokens, t.Readable := by
    unfold sampleTokens
    simp only [List.forall_mem_cons]
    refine ⟨trivial, ?_, trivial, ?_, trivial, fun t ht => nomatch ht⟩
    · exact (Reference.decode_isOk_iff _).mp ⟨['1', '&'], by cbv⟩
    · exact (Reference.decode_isOk_iff _).mp ⟨['&'], by cbv⟩
  exact ⟨hformed, by decide, (read_print sampleTokens hformed).mpr hread⟩

/-- A text that is a decimal reference with one digit more than is read. -/
def overlongText : PlainText where
  chars := '&' :: '#' :: List.replicate (Text.maxDigits + 1) '1'
  ne_nil := List.cons_ne_nil _ _
  no_markup := by simp [List.mem_replicate]

/-- Well-formed tokens are not always read back. -/
theorem overlong_unread :
    WellFormed [.text overlongText] ∧
      read (String.ofList (print [.text overlongText])) ≠
        ⟨eventsAt .start [.text overlongText], none⟩ := by
  have hformed : WellFormed [.text overlongText] := by
    refine ⟨List.isChain_singleton _, ?_⟩
    intro t ht
    rw [List.mem_singleton.mp ht]
    rfl
  have hoverlong : Reference.Overlong overlongText.chars := by
    refine ⟨[], List.replicate (Text.maxDigits + 1) '1', [], ?_, ?_, ?_⟩
    · rw [List.append_nil]
      rfl
    · intro d hd
      rw [List.eq_of_mem_replicate hd]
      rfl
    · rw [List.length_replicate]
      exact Nat.lt_succ_self _
  refine ⟨hformed, ?_⟩
  intro hread
  have hfault := read_fault (String.ofList (print [.text overlongText]))
  rw [hread, String.toList_ofList] at hfault
  exact fault_of_overlong _ hformed ⟨_, List.mem_singleton_self _, fun h => h hoverlong⟩ hfault.symm

end WordLint.Markup
