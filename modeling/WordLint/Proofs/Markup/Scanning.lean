import WordLint.Proofs.Markup.Parts
import WordLint.Proofs.Markup.Token

/-!
# What the scanners make of a written token

Each construct of the markup has a scanner, and each scanner takes of a written token what was put into
it, whatever follows: the name of an end tag (`endTag_printed`), the body of a comment
(`commentEnd?_body`), and name, attributes and end of a start tag (`scan_printed`). The attributes are
read one by one, each with the space before the next one (`attributes_step`); the quote behind a value is
found because an escaped value holds none.

The law of a single token is `parts_print`: a written token is cut off as one part with the role that
belongs to it. A text needs markup or nothing behind it, or it would go on.
-/

namespace WordLint.Markup

/-- A scan stops where what follows does not go on. -/
theorem takeWhile_append_stop {p : Char → Bool} {xs ys : List Char} (hxs : ∀ x ∈ xs, p x = true)
    (hys : ∀ y ∈ ys.head?, p y = false) : (xs ++ ys).takeWhile p = xs := by
  rw [List.takeWhile_append_of_pos hxs]
  cases ys with
  | nil => exact List.append_nil xs
  | cons y ys =>
    have hy : ¬ p y = true := by simp [hys y rfl]
    rw [List.takeWhile_cons_of_neg hy, List.append_nil]

/-! ## Names -/

theorem Name.word (n : Name) : ∀ c ∈ n.chars, isWordChar c = true := by
  intro c hc
  rcases List.mem_cons.mp hc with rfl | hc
  · simp [isWordChar, Char.isAlphanum, n.first_letter]
  · exact List.all_eq_true.mp n.rest_word c hc

theorem lowerAfter_word {cs : List Char} (h : ∀ c ∈ cs, isWordChar c = true) :
    ∀ before, Text.lowerAfter before cs = cs.map Char.toLower := by
  induction cs with
  | nil => exact fun before => rfl
  | cons c rest ih =>
    intro before
    have hfacts := wordFacts (h c List.mem_cons_self)
    rw [Text.lowerAfter, ih (fun d hd => h d (List.mem_cons_of_mem _ hd)), hfacts.ne_sigma,
      hfacts.lowerChar]
    rfl

/-- The small form of a name needs no context. -/
theorem small_name (n : Name) : small n.chars = n.lower := by
  unfold small Text.lower Name.lower
  rw [String.toList_ofList, lowerAfter_word n.word]

/-! ## End tags -/

theorem wellFormedEnd?_printed (n : Name) (rest : List Char) :
    wellFormedEnd? (n.chars ++ '>' :: rest) = some (n.chars, n.chars.length + 1) := by
  have hblank : Text.isBlank n.first = false := (wordFacts (n.word _ List.mem_cons_self)).not_blank
  have hbefore : (n.chars ++ '>' :: rest).takeWhile Text.isBlank = [] := by
    simp [Name.chars, hblank]
  have hname : (n.chars ++ '>' :: rest).takeWhile isEndNameChar = n.chars := by
    refine takeWhile_append_stop (fun c hc => (wordFacts (n.word c hc)).endName) ?_
    rintro c ⟨⟩
    decide
  have hafter : ('>' :: rest).takeWhile Text.isBlank = [] :=
    List.takeWhile_cons_of_neg (by decide)
  have hletter : n.chars.head?.any Tag.isLetter = true := n.first_letter
  unfold wellFormedEnd?
  simp only [hbefore, List.length_nil, List.drop_zero, hname, Nat.zero_add, List.drop_left, hafter,
    hletter, List.head?_cons, Bool.true_and, decide_true, if_true, Nat.add_zero]

/-- A written end tag is read as far as it goes. -/
theorem endTag_printed (n : Name) (rest : List Char) :
    endTag (n.chars ++ '>' :: rest) = .ok (.ofLength (.endTag n.lower) (2 + (n.chars.length + 1))) := by
  have hthrough : (lengthThrough? '>' (n.chars ++ '>' :: rest)).isSome = true := by
    simp [lengthThrough?]
  obtain ⟨through, hthrough⟩ := Option.isSome_iff_exists.mp hthrough
  unfold endTag
  rw [hthrough, wellFormedEnd?_printed]
  show Except.ok (Piece.ofLength (.endTag (small n.chars)) (2 + (n.chars.length + 1))) = _
  rw [small_name]

/-! ## Comments -/

theorem commentEnd?_cons {c : Char} {rest : List Char} (h : ¬ (c = '-' ∧ rest.head? = some '-')) :
    commentEnd? (c :: rest) = (commentEnd? rest).map (· + 1) := by
  rw [commentEnd?]
  rintro more rfl rfl
  exact h ⟨rfl, rfl⟩

/-- A comment goes on to the hyphens behind its body. -/
theorem commentEnd?_body (body rest : List Char) (hhyphens : ¬ ['-', '-'] <:+: body)
    (hend : body.getLast? ≠ some '-') :
    commentEnd? (body ++ '-' :: '-' :: '>' :: rest) = some (body.length + 3) := by
  induction body with
  | nil =>
    have hgap : ('>' :: rest).takeWhile Text.isBlank = [] := List.takeWhile_cons_of_neg (by decide)
    simp [commentEnd?, hgap]
  | cons c body ih =>
    have hmore : commentEnd? (body ++ '-' :: '-' :: '>' :: rest) = some (body.length + 3) := by
      refine ih (fun hpair => hhyphens (hpair.trans (List.suffix_cons c body).isInfix)) ?_
      intro hlast
      refine hend ?_
      rw [List.getLast?_cons, hlast]
      rfl
    have hnot : ¬ (c = '-' ∧ (body ++ '-' :: '-' :: '>' :: rest).head? = some '-') := by
      rintro ⟨rfl, hhead⟩
      cases body with
      | nil => exact hend rfl
      | cons d body =>
        cases hhead
        exact hhyphens ⟨[], body, rfl⟩
    rw [List.cons_append, commentEnd?_cons hnot, hmore, List.length_cons]
    rfl

/-! ## Attributes -/

/-- An attribute before its references are read. -/
def rawOf (a : Name × String) : Tag.RawAttribute :=
  ⟨a.1.chars, Reference.escape a.2.toList⟩

/-- A value between quotes is read up to the second one. -/
theorem value?_quoted {value : List Char} (hvalue : '"' ∉ value) (rest : List Char) :
    Tag.value? ('=' :: '"' :: (value ++ '"' :: rest)) = some ⟨value, '=' :: '"' :: (value ++ ['"'])⟩ := by
  have hbefore : ('=' :: '"' :: (value ++ '"' :: rest)).takeWhile Text.isBlank = [] :=
    List.takeWhile_cons_of_neg (by decide)
  have hsigns : ('=' :: '"' :: (value ++ '"' :: rest)).takeWhile (· == '=') = ['='] := by
    simp
  have hafter : ('"' :: (value ++ '"' :: rest)).takeWhile Text.isBlank = [] :=
    List.takeWhile_cons_of_neg (by decide)
  have hinner : (value ++ '"' :: rest).takeWhile (· != '"') = value := by
    refine takeWhile_append_stop (fun c hc => ?_) ?_
    · rw [bne_iff_ne]
      rintro rfl
      exact hvalue hc
    · rintro c ⟨⟩
      decide
  have hquote : Tag.isQuote '"' = true := by decide
  unfold Tag.value?
  simp [hbefore, hsigns, hafter, hinner, hquote]

/-- The end of a start tag, with anything behind it. -/
def EndsTag (cs : List Char) : Prop :=
  ∃ close rest, cs = printEnd close ++ rest

theorem separators_end {cs : List Char} (h : EndsTag cs) : Tag.separators cs = [] := by
  obtain ⟨close, rest, rfl⟩ := h
  have hclose : Text.isBlank '>' = false := by decide
  have hslash : Text.isBlank '/' = false := by decide
  cases close <;> simp [printEnd, Tag.separators, hclose, hslash]

/-- No attribute starts at the end of a tag. -/
theorem attributes_end {cs : List Char} (h : EndsTag cs) (last : Char) :
    Tag.attributes last cs = ⟨[], 0⟩ := by
  obtain ⟨close, rest, rfl⟩ := h
  have hclose : Tag.isAttributeStart '>' = false := by decide
  have hslash : Tag.isAttributeStart '/' = false := by decide
  cases close <;> simp [printEnd, Tag.attributes, hclose, hslash]

/-- The space before an attribute is all that separates it. -/
theorem separators_attribute (n : Name) (rest : List Char) :
    Tag.separators (' ' :: (n.chars ++ rest)) = [' '] := by
  have hfacts := wordFacts (n.word _ List.mem_cons_self)
  have hspace : Text.isBlank ' ' = true := by decide
  have hslash : n.first ≠ '/' := by
    intro heq
    have hstart := hfacts.attributeStart
    rw [heq] at hstart
    cases hstart
  simp [Tag.separators, Name.chars, hspace, hfacts.not_blank, hslash]

/-- The first letter of a written attribute, and what the scanner finds behind it. -/
theorem printBare_append (a : Name × String) (rest : List Char) :
    printBare a ++ rest =
      a.1.first :: (a.1.rest ++ '=' :: '"' :: (Reference.escape a.2.toList ++ '"' :: rest)) := by
  simp [printBare, Name.chars]

/-- What follows an attribute is found by dropping its value. -/
theorem drop_quoted (value rest : List Char) :
    ('=' :: '"' :: (value ++ '"' :: rest)).drop ('=' :: '"' :: (value ++ ['"'])).length = rest := by
  have happend : '=' :: '"' :: (value ++ '"' :: rest) = ('=' :: '"' :: (value ++ ['"'])) ++ rest := by
    simp
  rw [happend, List.drop_left]

/-- The last character taken for an attribute is a separator, or else its second quote. -/
theorem getLast?_quoted (front value gap : List Char) (c : Char) :
    (front ++ '=' :: '"' :: (value ++ ['"']) ++ gap).getLast?.getD c = gap.getLast?.getD '"' := by
  rw [List.getLast?_append]
  cases gap.getLast? with
  | some d => rfl
  | none =>
    have hquote : front ++ '=' :: '"' :: (value ++ ['"']) = (front ++ '=' :: '"' :: value) ++ ['"'] := by
      simp
    rw [hquote, List.getLast?_concat]
    rfl

/-- An attribute is read with the separators behind it; they, or the quote of its value, stand before
what is read next. -/
theorem attributes_step (a : Name × String) {last : Char} (hlast : Tag.admitsAttribute last = true)
    (rest : List Char) :
    Tag.attributes last (printBare a ++ rest) =
      ⟨rawOf a :: (Tag.attributes ((Tag.separators rest).getLast?.getD '"')
          (rest.drop (Tag.separators rest).length)).attributes,
        (printBare a).length + (Tag.separators rest).length +
          (Tag.attributes ((Tag.separators rest).getLast?.getD '"')
            (rest.drop (Tag.separators rest).length)).length⟩ := by
  obtain ⟨n, value⟩ := a
  have hstart := (wordFacts (n.word _ List.mem_cons_self)).attributeStart
  have htail : (n.rest ++ '=' :: '"' :: (Reference.escape value.toList ++ '"' :: rest)).takeWhile
      Tag.isAttributeChar = n.rest := by
    refine takeWhile_append_stop (fun c hc => ?_) ?_
    · exact (wordFacts (n.word c (List.mem_cons_of_mem _ hc))).attributeChar
    · rintro c ⟨⟩
      decide
  have hvalue := value?_quoted (Reference.quote_not_mem_escape value.toList) rest
  rw [printBare_append, Tag.attributes, hlast, hstart, Bool.and_self, if_pos rfl]
  simp only [htail, List.drop_left, hvalue, Option.getD_some, drop_quoted, getLast?_quoted]
  refine congrArg (Tag.AttributeScan.mk _) ?_
  simp only [printBare, Name.chars, List.length_append, List.length_cons, List.length_nil]
  omega

/-- **Attributes are read one by one**, up to the end of the tag. -/
theorem attributes_printed (as : List (Name × String)) {behind : List Char} (hbehind : EndsTag behind) :
    ∀ (a : Name × String) (last : Char), Tag.admitsAttribute last = true →
      Tag.attributes last (printBare a ++ (as.flatMap printAttribute ++ behind)) =
        ⟨(a :: as).map rawOf, (printBare a ++ as.flatMap printAttribute).length⟩ := by
  induction as with
  | nil =>
    intro a last hlast
    rw [attributes_step a hlast, List.flatMap_nil, List.nil_append, separators_end hbehind,
      List.length_nil, List.drop_zero, attributes_end hbehind, List.append_nil]
    rfl
  | cons b bs ih =>
    intro a last hlast
    have hnext : (b :: bs).flatMap printAttribute ++ behind =
        ' ' :: (printBare b ++ (bs.flatMap printAttribute ++ behind)) := by
      simp [printAttribute]
    have hgap : Tag.separators (' ' :: (printBare b ++ (bs.flatMap printAttribute ++ behind))) = [' '] := by
      unfold printBare
      rw [List.append_assoc]
      exact separators_attribute b.1 _
    rw [hnext, attributes_step a hlast, hgap]
    show Tag.AttributeScan.mk _ _ = _
    rw [List.getLast?_singleton, Option.getD_some, List.length_singleton, List.drop_one, List.tail_cons,
      ih b ' ' (by decide)]
    refine congrArg (Tag.AttributeScan.mk _) ?_
    simp only [printAttribute, List.flatMap_cons, List.length_append, List.length_cons]
    omega

/-! ## Start tags -/

/-- Separators and attributes take what stands between the name and the end of a tag. -/
theorem attributes_behind (front : List Char) (as : List (Name × String)) {behind : List Char}
    (hbehind : EndsTag behind) :
    ∃ gap scan, Tag.separators (as.flatMap printAttribute ++ behind) = gap ∧
      Tag.attributes ((front ++ gap).getLast?.getD '<')
        ((as.flatMap printAttribute ++ behind).drop gap.length) = scan ∧
      scan.attributes = as.map rawOf ∧ gap.length + scan.length = (as.flatMap printAttribute).length := by
  cases as with
  | nil => exact ⟨[], ⟨[], 0⟩, separators_end hbehind, attributes_end hbehind _, rfl, rfl⟩
  | cons a as =>
    have hnext : (a :: as).flatMap printAttribute ++ behind =
        ' ' :: (printBare a ++ (as.flatMap printAttribute ++ behind)) := by
      simp [printAttribute]
    have hgap : Tag.separators (' ' :: (printBare a ++ (as.flatMap printAttribute ++ behind))) = [' '] := by
      unfold printBare
      rw [List.append_assoc]
      exact separators_attribute a.1 _
    rw [hnext]
    refine ⟨[' '], ⟨(a :: as).map rawOf, (printBare a ++ as.flatMap printAttribute).length⟩, hgap, ?_,
      rfl, ?_⟩
    · rw [List.getLast?_concat, Option.getD_some, List.length_singleton, List.drop_one, List.tail_cons]
      exact attributes_printed as hbehind a ' ' (by decide)
    · simp only [printAttribute, List.flatMap_cons, List.length_append, List.length_cons,
        List.length_nil]
      omega

/-- **A written start tag is scanned back**: its name, its attributes in order, and how it ends. -/
theorem scan_printed (n : Name) (as : List (Name × String)) (close : Bool) (rest : List Char) :
    Tag.scan (n.chars ++ (as.flatMap printAttribute ++ (printEnd close ++ rest))) =
      .tag n.chars (as.map rawOf) close
        (1 + (n.chars ++ (as.flatMap printAttribute ++ printEnd close)).length) := by
  have hname : (n.chars ++ (as.flatMap printAttribute ++ (printEnd close ++ rest))).takeWhile
      Tag.isNameChar = n.chars := by
    refine takeWhile_append_stop (fun c hc => (wordFacts (n.word c hc)).tagName) ?_
    intro c hc
    cases as with
    | nil => cases close <;> cases hc <;> decide
    | cons a as =>
      cases hc
      decide
  obtain ⟨gap, scan, hgap, hscan, hraw, hlength⟩ := attributes_behind n.chars as ⟨close, rest, rfl⟩
  have hdrop : (n.chars ++ (as.flatMap printAttribute ++ (printEnd close ++ rest))).drop
      (n.chars.length + gap.length + scan.length) = printEnd close ++ rest := by
    rw [Nat.add_assoc, hlength, ← List.length_append, ← List.append_assoc, List.drop_left]
  unfold Tag.scan
  simp only [hname, List.drop_left, hgap, hscan, hdrop, hraw]
  cases close with
  | false =>
    refine congrArg (Tag.Scan.tag n.chars (as.map rawOf) false) ?_
    simp only [printEnd, List.length_append, Bool.false_eq_true, if_false, List.length_singleton]
    omega
  | true =>
    refine congrArg (Tag.Scan.tag n.chars (as.map rawOf) true) ?_
    simp only [printEnd, List.length_append, if_true, List.length_cons, List.length_nil]
    omega

/-- The values of written attributes are read back. -/
theorem readAttributes_printed (as : List (Name × String)) :
    (as.map rawOf).mapM readAttribute = .ok (as.map fun a => ⟨a.1.lower, a.2⟩) := by
  induction as with
  | nil => rfl
  | cons a as ih =>
    have hread : readAttribute (rawOf a) = .ok ⟨a.1.lower, a.2⟩ := by
      unfold readAttribute rawOf
      rw [Reference.decode_escape]
      show Except.ok (Attribute.mk (small a.1.chars) (String.ofList a.2.toList)) = _
      rw [small_name, String.ofList_toList]
    rw [List.map_cons, List.mapM_cons, hread, ih]
    rfl

theorem startTag_printed (n : Name) (as : List (Name × String)) (close : Bool) (rest : List Char) :
    startTag (n.chars ++ (as.flatMap printAttribute ++ (printEnd close ++ rest))) =
      .ok (.ofLength (.startTag n.lower (as.map fun a => ⟨a.1.lower, a.2⟩) close)
        (1 + (n.chars ++ (as.flatMap printAttribute ++ printEnd close)).length)) := by
  unfold startTag
  rw [scan_printed]
  dsimp only
  rw [readAttributes_printed, small_name]
  rfl

/-! ## One token -/

theorem first_of_content {c : Char} {rest : List Char} {piece : Piece}
    (h : Piece.ofContent c rest = .ok piece) (hinside : piece.role.inside = none) :
    Piece.first none c rest = .ok (piece, none) := by
  unfold Piece.first
  rw [h]
  show Except.ok (piece, piece.role.inside) = _
  rw [hinside]

/-- A letter behind `<` begins a start tag. -/
theorem atMarkup_letter {c : Char} (hc : Tag.isLetter c = true) (rest : List Char) :
    Piece.atMarkup (c :: rest) = startTag (c :: rest) := by
  unfold Piece.atMarkup
  split
  · rename_i heq
    cases heq
    cases hc
  · rename_i heq
    cases heq
    cases hc
  · rename_i heq
    cases heq
    cases hc
  · rename_i heq
    cases heq
    rw [if_pos hc]
  · rename_i heq
    cases heq

/-- A text is cut off in front of the markup behind it, when its references can be read. -/
theorem ofContent_text {c : Char} {front rest : List Char} (hmarkup : '<' ∉ c :: front)
    (hrest : ∀ d ∈ rest.head?, d = '<') :
    Piece.ofContent c (front ++ rest) = textPiece (c :: front) := by
  have hc : c ≠ '<' := by
    rintro rfl
    exact hmarkup List.mem_cons_self
  have hfront : (front ++ rest).takeWhile (· != '<') = front := by
    refine takeWhile_append_stop (fun d hd => ?_) ?_
    · rw [bne_iff_ne]
      rintro rfl
      exact hmarkup (List.mem_cons_of_mem _ hd)
    · intro d hd
      rw [hrest d hd]
      decide
  unfold Piece.ofContent
  rw [if_neg hc, hfront]

/-- A written start tag is one piece. -/
theorem ofContent_startTag (n : Name) (as : List (Name × String)) (close : Bool) (rest : List Char) :
    Piece.ofContent '<' (n.chars ++ (as.flatMap printAttribute ++ printEnd close) ++ rest) =
      .ok ⟨.startTag n.lower (as.map fun a => ⟨a.1.lower, a.2⟩) close,
        (n.chars ++ (as.flatMap printAttribute ++ printEnd close)).length⟩ := by
  have hletter : Tag.isLetter n.first = true := n.first_letter
  have hshape : n.chars ++ (as.flatMap printAttribute ++ printEnd close) ++ rest =
      n.first :: (n.rest ++ (as.flatMap printAttribute ++ (printEnd close ++ rest))) := by
    simp [Name.chars]
  have hprinted := startTag_printed n as close rest
  unfold Piece.ofLength at hprinted
  rw [Nat.add_sub_cancel_left] at hprinted
  unfold Piece.ofContent
  rw [if_pos rfl, hshape, atMarkup_letter hletter]
  exact hprinted

/-- A written end tag is one piece. -/
theorem ofContent_endTag (n : Name) (rest : List Char) :
    Piece.ofContent '<' ('/' :: (n.chars ++ ['>']) ++ rest) =
      .ok ⟨.endTag n.lower, ('/' :: (n.chars ++ ['>'])).length⟩ := by
  have hprinted := endTag_printed n rest
  rw [List.cons_append, List.append_assoc]
  refine hprinted.trans ?_
  unfold Piece.ofLength
  refine congrArg (fun extra => Except.ok (Piece.mk (.endTag n.lower) extra)) ?_
  simp only [List.length_cons, List.length_append, List.length_nil]
  omega

/-- A written comment is one piece. -/
theorem ofContent_comment (body : CommentBody) (rest : List Char) :
    Piece.ofContent '<' ('!' :: '-' :: '-' :: (body.chars ++ ['-', '-', '>']) ++ rest) =
      .ok ⟨.comment, ('!' :: '-' :: '-' :: (body.chars ++ ['-', '-', '>'])).length⟩ := by
  have hend := commentEnd?_body body.chars rest body.no_hyphens body.no_hyphen_end
  have hshape : '!' :: '-' :: '-' :: (body.chars ++ ['-', '-', '>']) ++ rest =
      '!' :: '-' :: '-' :: (body.chars ++ '-' :: '-' :: '>' :: rest) := by
    simp
  rw [hshape]
  show upTo .comment 4 ('!' :: '-' :: '-' :: (body.chars ++ '-' :: '-' :: '>' :: rest)) commentEnd? = _
  unfold upTo
  rw [List.drop_succ_cons, List.drop_succ_cons, List.drop_succ_cons, List.drop_zero, hend]
  unfold Piece.ofLength
  refine congrArg (fun extra => Except.ok (Piece.mk .comment extra)) ?_
  simp only [List.length_cons, List.length_append, List.length_nil]
  omega

/-- A tag that opens no raw content leads nowhere. -/
theorem inside_of_not_opensRaw {n : Name} {as : List (Name × String)} {close : Bool}
    (h : (Token.startTag n as close).opensRaw = false) :
    (Token.startTag n as close).role.inside = none := by
  have hclosed : (!close && rawElements.contains n.lower) = false := h
  show (if (!close && rawElements.contains n.lower) = true then some n.lower else none) = none
  rw [hclosed, if_neg Bool.false_ne_true]

/-- A written token is one piece, with the token's own role. -/
theorem first_print (t : Token) (hraw : t.opensRaw = false) (hread : t.Readable) {rest : List Char}
    (hrest : t.isText = true → ∀ d ∈ rest.head?, d = '<') :
    ∃ c front, t.print = c :: front ∧
      Piece.first none c (front ++ rest) = .ok (⟨t.role, front.length⟩, none) := by
  cases t with
  | startTag n as close =>
    exact ⟨'<', _, rfl, first_of_content (ofContent_startTag n as close rest)
      (inside_of_not_opensRaw hraw)⟩
  | endTag n => exact ⟨'<', _, rfl, first_of_content (ofContent_endTag n rest) rfl⟩
  | comment body => exact ⟨'<', _, rfl, first_of_content (ofContent_comment body rest) rfl⟩
  | text content =>
    obtain ⟨chars, hne, hmarkup⟩ := content
    cases chars with
    | nil => exact absurd rfl hne
    | cons c front =>
      obtain ⟨ds, hds⟩ := (Reference.decode_isOk_iff (c :: front)).mpr hread
      have hpiece : Piece.ofContent c (front ++ rest) = .ok ⟨.text, front.length⟩ := by
        rw [ofContent_text hmarkup (hrest rfl)]
        unfold textPiece
        rw [hds]
        rfl
      exact ⟨c, front, rfl, first_of_content hpiece rfl⟩

/-- **A written token is cut off as one part**, with the role that belongs to it. -/
theorem parts_print (t : Token) (hraw : t.opensRaw = false) (hread : t.Readable) {rest : List Char}
    (hrest : t.isText = true → ∀ d ∈ rest.head?, d = '<') :
    parts none (t.print ++ rest) =
      (⟨t.role, t.print⟩ :: (parts none rest).1, (parts none rest).2) := by
  obtain ⟨c, front, hprint, hfirst⟩ := first_print t hraw hread hrest
  rw [hprint, List.cons_append, parts_cons hfirst, List.take_left, List.drop_left]

/-- A text with a reference that is too long stops the reading. -/
theorem parts_overlong {t : Token} (hread : ¬ t.Readable) {rest : List Char}
    (hrest : t.isText = true → ∀ d ∈ rest.head?, d = '<') :
    (parts none (t.print ++ rest)).2 ≠ none := by
  cases t with
  | startTag name attributes close => exact absurd trivial hread
  | endTag name => exact absurd trivial hread
  | comment body => exact absurd trivial hread
  | text content =>
    obtain ⟨chars, hne, hmarkup⟩ := content
    cases chars with
    | nil => exact absurd rfl hne
    | cons c front =>
      have hnot : ¬ ∃ ds, Reference.decode (c :: front) = .ok ds := by
        rw [Reference.decode_isOk_iff]
        exact hread
      cases hdecode : Reference.decode (c :: front) with
      | ok ds => exact absurd ⟨ds, hdecode⟩ hnot
      | error e =>
        have hfirst : Piece.first none c (front ++ rest) = .error (.reference e) := by
          unfold Piece.first
          rw [ofContent_text hmarkup (hrest rfl)]
          unfold textPiece
          rw [hdecode]
          rfl
        show (parts none (c :: (front ++ rest))).2 ≠ none
        rw [parts_fault hfirst]
        exact Option.some_ne_none _

end WordLint.Markup
