import Mathlib
import WordLint.Markup.Document

/-!
# What the parts of a document have to do with the document

**Nothing is skipped** (`parts_chars`): the characters of the parts, one after the other, are those of
the document; when a fault cuts them short they are the front of it. Every part has a character.

**Where a part is silent** (`ofContent_silent`): in ordinary content only the end tag without a name,
`</>`, has no event of its own. Inside a raw element what remains of a script can be silent too, but a
raw element is entered by its start tag, and so the parts at the front of a document that are silent
are end tags without a name, written one behind the other (`parts_silent_front`).
-/

namespace WordLint.Markup

/-! ## Nothing is skipped -/

/-- The next part of a document. A piece that is longer than the document ends with it. -/
theorem parts_cons {inside next : Inside} {c : Char} {rest : List Char} {piece : Piece}
    (h : Piece.first inside c rest = .ok (piece, next)) :
    parts inside (c :: rest) =
      (⟨piece.role, c :: rest.take piece.extra⟩ :: (parts next (rest.drop piece.extra)).1,
        (parts next (rest.drop piece.extra)).2) := by
  rw [parts, h]

theorem parts_fault {inside : Inside} {c : Char} {rest : List Char} {fault : Fault}
    (h : Piece.first inside c rest = .error fault) : parts inside (c :: rest) = ([], some fault) := by
  rw [parts, h]

theorem parts_nil (inside : Inside) : parts inside [] = ([], none) := by
  rw [parts]

/-- **Nothing is skipped**: the parts are the front of the document, and all of it without a fault. -/
theorem parts_chars (inside : Inside) (cs : List Char) :
    ∃ rest, (parts inside cs).1.flatMap (·.chars) ++ rest = cs ∧
      ((parts inside cs).2 = none → rest = []) := by
  induction inside, cs using parts.induct with
  | case1 inside =>
    rw [parts_nil]
    exact ⟨[], rfl, fun _ => rfl⟩
  | case2 inside c rest fault h =>
    rw [parts_fault h]
    exact ⟨c :: rest, rfl, fun hnone => nomatch hnone⟩
  | case3 inside c rest piece next h ih =>
    obtain ⟨more, hchars, hnone⟩ := ih
    rw [parts_cons h]
    refine ⟨more, ?_, hnone⟩
    rw [List.flatMap_cons, List.append_assoc, hchars, List.cons_append, List.take_append_drop]

theorem parts_chars_of_complete {inside : Inside} {cs : List Char}
    (h : (parts inside cs).2 = none) : (parts inside cs).1.flatMap (·.chars) = cs := by
  obtain ⟨rest, hchars, hnone⟩ := parts_chars inside cs
  rw [hnone h, List.append_nil] at hchars
  exact hchars

/-- Every part has a character. -/
theorem parts_ne_nil (inside : Inside) (cs : List Char) :
    ∀ part ∈ (parts inside cs).1, part.chars ≠ [] := by
  induction inside, cs using parts.induct with
  | case1 inside =>
    rw [parts_nil]
    exact fun part hmem => nomatch hmem
  | case2 inside c rest fault h =>
    rw [parts_fault h]
    exact fun part hmem => nomatch hmem
  | case3 inside c rest piece next h ih =>
    rw [parts_cons h]
    intro part hmem
    rcases List.mem_cons.mp hmem with rfl | hmem
    · exact List.cons_ne_nil _ _
    · exact ih part hmem

/-! ## The roles of pieces -/

theorem textPiece_role {cs : List Char} {p : Piece} (h : textPiece cs = .ok p) : p.role = .text := by
  unfold textPiece at h
  split at h
  · cases h
    rfl
  · cases h

theorem unended_role {rest : List Char} {p : Piece} (h : unended rest = .ok p) : p.role = .text :=
  textPiece_role h

/-- A construct that is searched for has its own role, or is text when its end is not found. -/
theorem upTo_role {role : Role} {opening : Nat} {rest : List Char} {search : List Char → Option Nat}
    {p : Piece} (h : upTo role opening rest search = .ok p) : p.role = role ∨ p.role = .text := by
  unfold upTo at h
  split at h
  · cases h
    exact Or.inl rfl
  · exact Or.inr (unended_role h)

/-- An end tag is silent only when it has no name, and then it is `</>`. -/
theorem endTag_silent {cs : List Char} {p : Piece} (h : endTag cs = .ok p) (hrole : p.role = .silent) :
    cs.head? = some '>' ∧ p.extra = 2 := by
  unfold endTag at h
  split at h
  · rw [unended_role h] at hrole
    cases hrole
  · split at h
    · cases h
      cases hrole
    · split at h
      · cases h
        cases hrole
      · split at h
        · cases h
          exact ⟨‹_›, rfl⟩
        · cases h
          cases hrole

theorem bracketSection_role {cs : List Char} {p : Piece} (h : bracketSection cs = .ok p) :
    p.role = .text := by
  unfold bracketSection at h
  dsimp only at h
  split at h
  · exact unended_role h
  · split at h
    · cases h
    · split at h
      · exact unended_role h
      · split at h
        · exact (upTo_role h).elim id id
        · split at h
          · exact (upTo_role h).elim id id
          · cases h

/-- A declaration is text or a comment. -/
theorem declaration_role {cs : List Char} {p : Piece} (h : declaration cs = .ok p) :
    p.role = .comment ∨ p.role = .text := by
  unfold declaration at h
  split at h
  · exact upTo_role h
  · exact Or.inr (bracketSection_role h)
  · split at h
    · exact Or.inr ((upTo_role h).elim id id)
    · exact upTo_role h

theorem startTag_ne_silent {cs : List Char} {p : Piece} (h : startTag cs = .ok p) :
    p.role ≠ .silent := by
  unfold startTag at h
  split at h
  · rename_i name attributes close length _
    cases hread : attributes.mapM readAttribute with
    | error fault =>
      rw [hread] at h
      cases h
    | ok read =>
      rw [hread] at h
      cases h
      exact Role.noConfusion
  · cases h
    exact Role.noConfusion
  · rw [unended_role h]
    exact Role.noConfusion

/-- **A silent piece of ordinary content is `</>`.** -/
theorem ofContent_silent {c : Char} {rest : List Char} {p : Piece}
    (h : Piece.ofContent c rest = .ok p) (hrole : p.role = .silent) :
    c = '<' ∧ rest.take 2 = ['/', '>'] ∧ p.extra = 2 := by
  unfold Piece.ofContent at h
  split at h
  · rename_i hc
    unfold Piece.atMarkup at h
    split at h
    · rename_i cs
      obtain ⟨hhead, hextra⟩ := endTag_silent h hrole
      refine ⟨hc, ?_, hextra⟩
      cases cs with
      | nil => cases hhead
      | cons d ds =>
        cases hhead
        rfl
    · rcases upTo_role h with htext | htext <;>
      · rw [htext] at hrole
        cases hrole
    · rcases declaration_role h with hother | hother <;>
      · rw [hother] at hrole
        cases hrole
    · split at h
      · exact absurd hrole (startTag_ne_silent h)
      · cases h
        cases hrole
    · cases h
      cases hrole
  · rw [textPiece_role h] at hrole
    cases hrole

/-! ## Silent parts at the front -/

/-- A document without the end tags without a name that it starts with. -/
def withoutEmptyEnds : List Char → List Char
  | '<' :: '/' :: '>' :: rest => withoutEmptyEnds rest
  | cs => cs

theorem withoutEmptyEnds_of_ne {cs : List Char} (h : ∀ rest, cs ≠ '<' :: '/' :: '>' :: rest) :
    withoutEmptyEnds cs = cs := by
  unfold withoutEmptyEnds
  split
  · exact absurd rfl (h _)
  · rfl

/-- The end tag without a name is cut off as a silent part, and leads nowhere. -/
theorem first_emptyEnd (rest : List Char) :
    Piece.first none '<' ('/' :: '>' :: rest) = .ok (⟨.silent, 2⟩, none) := by
  have hthrough : lengthThrough? '>' ('>' :: rest) = some 1 := by
    simp [lengthThrough?, List.findIdx?_cons]
  have hformed : wellFormedEnd? ('>' :: rest) = none := by
    have hblank : Text.isBlank '>' = false := by decide
    have hname : isEndNameChar '>' = false := by decide
    simp [wellFormedEnd?, hblank, hname]
  have hletter : Tag.isLetter '>' = false := by decide
  simp [Piece.first, Piece.ofContent, Piece.atMarkup, endTag, hthrough, hformed, hletter,
    Piece.ofLength, Role.inside, bind, Except.bind, pure, Except.pure]

/-- **The silent front of a document**: what follows the silent parts at the front is the document
without the empty end tags that it starts with. -/
theorem parts_silent_front (cs : List Char) (h : (parts none cs).2 = none) :
    ((parts none cs).1.dropWhile (·.role == .silent)).flatMap (·.chars) = withoutEmptyEnds cs := by
  induction cs using withoutEmptyEnds.induct with
  | case1 rest ih =>
    rw [parts_cons (first_emptyEnd rest)] at h ⊢
    rw [withoutEmptyEnds, List.dropWhile_cons_of_pos (by rfl)]
    exact ih h
  | case2 cs hother =>
    have hwhole := parts_chars_of_complete h
    rw [withoutEmptyEnds_of_ne hother]
    cases cs with
    | nil =>
      rw [parts_nil]
      rfl
    | cons c rest =>
      cases hfirst : Piece.first none c rest with
      | error fault =>
        rw [parts_fault hfirst] at h
        cases h
      | ok found =>
        obtain ⟨piece, next⟩ := found
        have hcontent : Piece.ofContent c rest = .ok piece := by
          unfold Piece.first at hfirst
          cases hpiece : Piece.ofContent c rest with
          | error fault =>
            simp only [hpiece] at hfirst
            cases hfirst
          | ok q =>
            simp only [hpiece] at hfirst
            cases hfirst
            rfl
        have hloud : piece.role ≠ .silent := by
          intro hrole
          obtain ⟨rfl, hfront, _⟩ := ofContent_silent hcontent hrole
          refine hother (rest.drop 2) ?_
          rw [← List.take_append_drop 2 rest, hfront]
          rfl
        rw [parts_cons hfirst] at hwhole ⊢
        rw [List.dropWhile_cons_of_neg (by simpa using hloud)]
        exact hwhole

end WordLint.Markup
