import WordLint.Proofs.Markup.Reports
import WordLint.Proofs.Text.OneLine

/-!
# The names of elements

The name in a tag ends at a blank at the latest, so it has no line break, and its small form has none either. The
end tag of a raw element takes its name from the start tag.

**The law** (`element_oneLine`): the element of an event of a document has its name on one line. It is put
together from the pieces (`ofContent_named`, `ofRaw_named`), by induction on the parts of the document
(`parts_named`), and from the part that opens an event (`element_of_mem_assembled`).
-/

namespace WordLint.Markup

/-! ## The names of pieces -/

/-- The role names no element, or one with its name on one line. -/
def Role.Named (role : Role) : Prop :=
  ∀ name ∈ role.element, OneLine name.toList

theorem named_text : Role.text.Named :=
  nofun

theorem named_comment : Role.comment.Named :=
  nofun

theorem named_silent : Role.silent.Named :=
  nofun

/-- Characters none of which is a line break have their small form on one line. -/
theorem small_oneLine {cs : List Char} (h : OneLine cs) : OneLine (small cs).toList := by
  refine Text.lower_oneLine ?_
  rw [String.toList_ofList]
  exact h

theorem wellFormedEnd?_oneLine {cs name : List Char} {n : Nat} (h : wellFormedEnd? cs = some (name, n)) :
    OneLine name := by
  unfold wellFormedEnd? at h
  dsimp only at h
  split at h
  · cases h
    exact .takeWhile rfl rfl _
  · cases h

theorem endTag_named {cs : List Char} {p : Piece} (h : endTag cs = .ok p) : p.role.Named := by
  have hnamed {name : List Char} (hname : OneLine name) : (Role.endTag (small name)).Named := by
    rintro _ ⟨⟩
    exact small_oneLine hname
  unfold endTag at h
  split at h
  · rw [unended_role h]
    exact named_text
  · split at h
    · rename_i hend
      cases h
      exact hnamed (wellFormedEnd?_oneLine hend)
    · split at h
      · cases h
        exact hnamed (.takeWhile rfl rfl cs)
      · split at h <;> cases h
        · exact named_silent
        · exact named_comment

/-- The name of a start tag ends where a name can end. -/
theorem scan_name {cs name : List Char} {attributes : List Tag.RawAttribute} {close : Bool} {length : Nat}
    (h : Tag.scan cs = .tag name attributes close length) : name = cs.takeWhile Tag.isNameChar := by
  unfold Tag.scan at h
  dsimp only at h
  split at h
  · cases h
    rfl
  · cases h
    rfl
  · split at h <;> cases h
  · cases h

theorem startTag_named {cs : List Char} {p : Piece} (h : startTag cs = .ok p) : p.role.Named := by
  unfold startTag at h
  split at h
  · rename_i name attributes close length hscan
    cases hread : attributes.mapM readAttribute with
    | error fault =>
      rw [hread] at h
      cases h
    | ok read =>
      rw [hread] at h
      cases h
      rintro _ ⟨⟩
      rw [scan_name hscan]
      exact small_oneLine (.takeWhile rfl rfl cs)
  · cases h
    exact named_text
  · rw [unended_role h]
    exact named_text

/-- **A piece of ordinary content** names an element on one line, if it names one. -/
theorem ofContent_named {c : Char} {rest : List Char} {p : Piece} (h : Piece.ofContent c rest = .ok p) :
    p.role.Named := by
  unfold Piece.ofContent at h
  split at h
  · unfold Piece.atMarkup at h
    split at h
    · exact endTag_named h
    · rw [(upTo_role h).elim id id]
      exact named_text
    · rcases declaration_role h with hrole | hrole <;> rw [hrole]
      · exact named_comment
      · exact named_text
    · split at h
      · exact startTag_named h
      · cases h
        exact named_text
    · cases h
      exact named_text
  · rw [textPiece_role h]
    exact named_text

/-- **A piece of raw content** can name the element that the content is in. -/
theorem ofRaw_named {name : String} (h : OneLine name.toList) (cs : List Char) :
    (Piece.ofRaw name cs).1.role.Named := by
  unfold Piece.ofRaw
  split
  · exact named_silent
  · exact named_text
  · split
    · exact named_text
    · split
      · rintro _ ⟨⟩
        exact h
      · exact named_text

/-! ## The names of parts -/

/-- The raw element that is read is named on one line. -/
def Inside.Named (inside : Inside) : Prop :=
  ∀ name ∈ inside, OneLine name.toList

/-- A piece leads into the element that it names. -/
theorem Role.Named.inside {role : Role} (h : role.Named) : Inside.Named role.inside := by
  intro name hname
  cases role with
  | startTag name' attributes close =>
    have hentered : (if !close && rawElements.contains name' then some name' else none) = some name := hname
    split at hentered
    · cases hentered
      exact h _ rfl
    · cases hentered
  | _ => cases hname

/-- Raw content goes on in the same element, or ends. -/
theorem ofRaw_inside (name : String) (cs : List Char) :
    (Piece.ofRaw name cs).2 = some name ∨ (Piece.ofRaw name cs).2 = none := by
  unfold Piece.ofRaw
  split
  · exact .inl rfl
  · exact .inl rfl
  · split
    · exact .inl rfl
    · split
      · exact .inr rfl
      · exact .inl rfl

/-- A piece names an element on one line, and so does what it leads into. -/
theorem first_named {inside next : Inside} {c : Char} {rest : List Char} {piece : Piece}
    (hinside : Inside.Named inside) (h : Piece.first inside c rest = .ok (piece, next)) :
    piece.role.Named ∧ Inside.Named next := by
  unfold Piece.first at h
  cases inside with
  | some name =>
    have hname := hinside name rfl
    have hpiece := ofRaw_named hname (c :: rest)
    have hnext := ofRaw_inside name (c :: rest)
    rw [Except.ok.inj h] at hpiece hnext
    refine ⟨hpiece, ?_⟩
    rcases hnext with rfl | rfl
    · exact hinside
    · exact nofun
  | none =>
    cases hpiece : Piece.ofContent c rest with
    | error fault =>
      rw [hpiece] at h
      cases h
    | ok p =>
      rw [hpiece] at h
      cases h
      have hnamed := ofContent_named hpiece
      exact ⟨hnamed, hnamed.inside⟩

theorem parts_named (inside : Inside) (cs : List Char) (h : Inside.Named inside) :
    ∀ part ∈ (parts inside cs).1, part.role.Named := by
  induction inside, cs using parts.induct with
  | case1 inside =>
    rw [parts_nil]
    exact List.forall_mem_nil _
  | case2 inside c rest fault hfirst =>
    rw [parts_fault hfirst]
    exact List.forall_mem_nil _
  | case3 inside c rest piece next hfirst ih =>
    obtain ⟨hpiece, hnext⟩ := first_named h hfirst
    rw [parts_cons hfirst]
    exact List.forall_mem_cons.mpr ⟨hpiece, ih hnext⟩

/-! ## The names of events -/

/-- An event names the element of the part that opened it, and so does the one that was open before. -/
theorem element_of_mem_assembled {fault : Option Fault} (ps : List Part) :
    ∀ {place : Place} {current : Option Open} {e : Event}, e ∈ assembled place current ps fault →
      (∃ o ∈ current, e.element = o.role.element) ∨ ∃ part ∈ ps, e.element = part.role.element := by
  have hopen {current : Option Open} {e : Event} (he : e ∈ (current.map Open.complete).toList) :
      ∃ o ∈ current, e.element = o.role.element := by
    obtain ⟨o, ho, rfl⟩ := Option.mem_map.mp (Option.mem_toList.mp he)
    exact ⟨o, ho, rfl⟩
  induction ps with
  | nil =>
    intro place current e he
    rw [assembled_nil] at he
    split at he
    · exact .inl (hopen he)
    · exact absurd he List.not_mem_nil
  | cons part rest ih =>
    intro place current e he
    cases hcontinues : continues current part.role with
    | true =>
      rw [assembled_joins hcontinues] at he
      rcases ih he with ⟨o, ho, helement⟩ | ⟨part', hpart, helement⟩
      · obtain ⟨o', ho', rfl⟩ := Option.mem_map.mp ho
        exact .inl ⟨o', ho', helement⟩
      · exact .inr ⟨part', List.mem_cons_of_mem _ hpart, helement⟩
    | false =>
      rw [assembled_opens hcontinues] at he
      rcases List.mem_append.mp he with he | he
      · exact .inl (hopen he)
      · rcases ih he with ⟨_, ⟨⟩, helement⟩ | ⟨part', hpart, helement⟩
        · exact .inr ⟨part, List.mem_cons_self, helement⟩
        · exact .inr ⟨part', List.mem_cons_of_mem _ hpart, helement⟩

/-- **The element of an event has its name on one line.** -/
theorem element_oneLine {html : String} {e : Event} (he : e ∈ (read html).events) {name : String}
    (h : e.element = some name) : OneLine name.toList := by
  rw [read_events_eq] at he
  rcases element_of_mem_assembled _ he with ⟨_, ⟨⟩, _⟩ | ⟨part, hpart, helement⟩
  · exact parts_named none html.toList nofun part hpart name (helement.symm.trans h)

end WordLint.Markup
