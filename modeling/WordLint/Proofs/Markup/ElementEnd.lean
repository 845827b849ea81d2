import WordLint.Proofs.Markup.Extent
import WordLint.Proofs.Markup.Scanning

/-!
# Where raw elements end

`IsEndTag` says what an end tag of a raw element is, without the reader: two marks, the name in letters of
ASCII of either case, blanks around it, and the closing mark. `EndsFirst` and `NeverEnds` say of some content
whether one stands in it, and where the first one does.

The reader looks for the end tag in letters that are equal without regard to case, in any script, and only
then asks for ASCII. The two agree: an end tag is found where it stands (`IsEndTag.closing?`), what is found in
ASCII is one (`isEndTag_of_closing?`), and what is found in other letters hides none (`noneBefore_of_letters`).

**What stands at the front of raw content** is put together in `ofRaw_cases`.
-/

namespace WordLint.Markup

/-! ## End tags -/

/-- An end tag with this name, in small or capital letters of ASCII, and with blanks around the name. -/
def IsEndTag (name : String) (tag : List Char) : Prop :=
  ∃ before letters after, tag = '<' :: '/' :: (before ++ letters ++ after) ++ ['>'] ∧
    (∀ c ∈ before, Text.isBlank c = true) ∧ (∀ c ∈ after, Text.isBlank c = true) ∧
    letters.map Char.toLower = name.toList

/-- The content of an element is `body`: an end tag of the element follows, and none stands earlier. -/
structure EndsFirst (name : String) (content body tag rest : List Char) : Prop where
  cut : content = body ++ tag ++ rest
  isEndTag : IsEndTag name tag
  first : ∀ body' tag' rest', content = body' ++ tag' ++ rest' → IsEndTag name tag' →
    body.length ≤ body'.length

/-- No end tag of the element stands anywhere. -/
def NeverEnds (name : String) (content : List Char) : Prop :=
  ∀ body tag rest, content = body ++ tag ++ rest → ¬ IsEndTag name tag

/-! ## Letters -/

/-- The letters of the names of raw elements. -/
def rawLetters : List Char :=
  ['s', 'c', 'r', 'i', 'p', 't', 'y', 'l', 'e']

/-- The characters that are the same letter as one of these are, in ASCII, its own two forms. -/
theorem capitalClass_rawLetters {c : Char} (hc : c ∈ rawLetters) :
    c.toNat < 128 ∧ c ∈ Text.capitalClass (Text.lowerLetter c) ∧
      ∀ d ∈ Text.capitalClass (Text.lowerLetter c), d = c ∨ 128 ≤ d.toNat := by
  have hall : rawLetters.all (fun c => decide (c.toNat < 128) &&
      (Text.capitalClass (Text.lowerLetter c)).contains c &&
      (Text.capitalClass (Text.lowerLetter c)).all fun d => d == c || 128 ≤ d.toNat) = true := by
    decide
  have hfacts := List.all_eq_true.mp hall c hc
  simp only [Bool.and_eq_true, decide_eq_true_eq, List.contains_iff_mem, List.all_eq_true, Bool.or_eq_true,
    beq_iff_eq] at hfacts
  exact ⟨hfacts.1.1, hfacts.1.2, hfacts.2⟩

theorem toNat_toLower_lt {d : Char} (h : d.toNat < 128) : d.toLower.toNat < 128 :=
  Text.forall_ascii (P := fun d => d.toLower.toNat < 128) (by decide +kernel) h

/-- In ASCII, letters are the same when they differ in nothing but case. -/
theorem sameLetter_iff {c d : Char} (hc : c ∈ rawLetters) (hd : d.toNat < 128) :
    Text.sameLetter c d = true ↔ d.toLower = c := by
  obtain ⟨-, hmem, hothers⟩ := capitalClass_rawLetters hc
  have hlower : Text.lowerLetter d = d.toLower := if_pos hd
  unfold Text.sameLetter
  rw [hlower, List.contains_iff_mem]
  constructor
  · intro hclass
    have hsmall := toNat_toLower_lt hd
    exact (hothers _ hclass).resolve_right (by omega)
  · rintro rfl
    exact hmem

/-- The names of raw elements are made of these letters. -/
theorem mem_rawLetters {name : String} (h : name ∈ rawElements) : ∀ c ∈ name.toList, c ∈ rawLetters := by
  have hall : (rawElements.all fun name => name.toList.all rawLetters.contains) = true := by
    decide
  intro c hc
  exact List.contains_iff_mem.mp (List.all_eq_true.mp (List.all_eq_true.mp hall name h) c hc)

theorem toList_ne_nil_of_raw {name : String} (h : name ∈ rawElements) : name.toList ≠ [] := by
  have hall : (rawElements.all fun name => !name.toList.isEmpty) = true := by
    decide
  have hname := List.all_eq_true.mp hall name h
  rintro hnil
  rw [hnil] at hname
  cases hname

/-- Only letters of ASCII have small forms in ASCII of their own. -/
theorem toNat_lt_of_toLower {d : Char} (h : d.toLower.toNat < 128) : d.toNat < 128 := by
  by_contra hd
  have hself : d.toLower = d := by
    unfold Char.toLower
    split
    · rename_i hcapital
      have hZ : d.toNat ≤ 90 := hcapital.2
      omega
    · rfl
  rw [hself] at h
  exact hd h

/-- Letters of ASCII spell the name of a raw element when their small forms are the name. -/
theorem spells_iff {name : List Char} (hname : ∀ c ∈ name, c ∈ rawLetters) :
    ∀ letters, (spells name letters && letters.all (·.toNat < 0x80)) = true ↔
      letters.map Char.toLower = name := by
  induction name with
  | nil =>
    intro letters
    cases letters <;> simp [spells]
  | cons c name ih =>
    intro letters
    cases letters with
    | nil => simp [spells]
    | cons d letters =>
      have hrest := ih (fun x hx => hname x (List.mem_cons_of_mem _ hx)) letters
      have hc := hname c List.mem_cons_self
      rw [List.map_cons, List.cons.injEq, ← hrest]
      simp only [spells, List.length_cons, List.zip_cons_cons, List.all_cons, Bool.and_eq_true, beq_iff_eq,
        Nat.add_right_cancel_iff, decide_eq_true_eq]
      constructor
      · rintro ⟨⟨hlength, hsame, hmore⟩, hd, hascii⟩
        exact ⟨(sameLetter_iff hc hd).mp hsame, ⟨hlength, hmore⟩, hascii⟩
      · rintro ⟨hlower, ⟨hlength, hmore⟩, hascii⟩
        have hd := toNat_lt_of_toLower (hlower ▸ (capitalClass_rawLetters hc).1)
        exact ⟨⟨hlength, (sameLetter_iff hc hd).mpr hlower, hmore⟩, hd, hascii⟩

/-! ## Finding the end -/

variable {name : String}

theorem isBlank_of_rawLetters {d : Char} (hd : d.toLower ∈ rawLetters) : Text.isBlank d = false := by
  have hall := Text.forall_ascii
    (P := fun d => (Text.isBlank d && rawLetters.contains d.toLower) = false) (by decide +kernel)
    (toNat_lt_of_toLower (capitalClass_rawLetters hd).1)
  rw [List.contains_iff_mem.mpr hd, Bool.and_true] at hall
  exact hall

/-- An end tag is found where it stands. -/
theorem IsEndTag.closing? (hname : name ∈ rawElements) {tag : List Char} (h : IsEndTag name tag)
    (rest : List Char) : ∃ letters, Markup.closing? name.toList (tag ++ rest) = some (letters, tag.length) ∧
      letters.all (·.toNat < 0x80) = true := by
  obtain ⟨before, letters, after, rfl, hbefore, hafter, hletters⟩ := h
  have hspells := (spells_iff (mem_rawLetters hname) letters).mpr hletters
  rw [Bool.and_eq_true] at hspells
  have hlength : name.toList.length = letters.length := by rw [← hletters, List.length_map]
  have hfront : (before ++ (letters ++ (after ++ '>' :: rest))).takeWhile Text.isBlank = before := by
    refine takeWhile_append_stop hbefore ?_
    cases letters with
    | nil => exact absurd hletters.symm (toList_ne_nil_of_raw hname)
    | cons d letters =>
      rintro _ ⟨⟩
      refine isBlank_of_rawLetters (mem_rawLetters hname _ ?_)
      rw [← hletters]
      exact List.mem_cons_self
  have hback : (after ++ '>' :: rest).takeWhile Text.isBlank = after := by
    refine takeWhile_append_stop hafter ?_
    rintro _ ⟨⟩
    decide
  have hshape : '<' :: '/' :: (before ++ letters ++ after) ++ ['>'] ++ rest =
      '<' :: '/' :: (before ++ (letters ++ (after ++ '>' :: rest))) := by
    simp
  refine ⟨letters, ?_, hspells.2⟩
  rw [hshape]
  unfold Markup.closing?
  simp only [hfront, List.drop_left, hlength, List.take_left, ← List.drop_drop, hback, hspells.1,
    List.head?_cons]
  simp
  omega

theorem IsEndTag.cons {tag : List Char} (h : IsEndTag name tag) : ∃ inner, tag = '<' :: inner := by
  obtain ⟨before, letters, after, rfl, -⟩ := h
  exact ⟨_, rfl⟩

/-- The letters that are found are those of an end tag when they are in ASCII. -/
theorem isEndTag_of_closing? (hname : name ∈ rawElements) {cs letters : List Char} {n : Nat}
    (h : Markup.closing? name.toList cs = some (letters, n)) (hascii : letters.all (·.toNat < 0x80) = true) :
    ∃ tag rest, cs = tag ++ rest ∧ IsEndTag name tag ∧ tag.length = n := by
  obtain ⟨before, after, rest, rfl, hbefore, hafter, hspells, rfl⟩ := closing?_eq_some h
  have hletters := (spells_iff (mem_rawLetters hname) letters).mp (by rw [hspells, hascii]; rfl)
  refine ⟨'<' :: '/' :: (before ++ letters ++ after) ++ ['>'], rest, by simp,
    ⟨before, letters, after, rfl, hbefore, hafter, hletters⟩, ?_⟩
  simp only [List.length_append, List.length_cons, List.length_nil]

/-- No end tag starts among the first `n` characters. -/
def NoneBefore (name : String) (n : Nat) (content : List Char) : Prop :=
  ∀ body tag rest, content = body ++ tag ++ rest → IsEndTag name tag → n ≤ body.length

/-- What is found first is not behind another one. -/
theorem lengthBefore?_le {name' cs later : List Char} {m : Nat} (h : lengthBefore? name' cs = some m) :
    ∀ front, cs = front ++ later → (Markup.closing? name' later).isSome = true → m ≤ front.length := by
  induction cs generalizing m with
  | nil => cases h
  | cons c cs ih =>
    intro front hcut hlater
    rw [lengthBefore?] at h
    split at h
    · cases h
      exact Nat.zero_le _
    · rename_i hhere
      obtain ⟨k, hk, rfl⟩ := Option.map_eq_some_iff.mp h
      cases front with
      | nil =>
        rw [List.nil_append] at hcut
        rw [hcut] at hhere
        exact absurd hlater hhere
      | cons d front => exact Nat.succ_le_succ (ih hk front (List.cons.inj hcut).2 hlater)

/-- No end tag stands before the place that is found. -/
theorem noneBefore_of_lengthBefore? (hname : name ∈ rawElements) {cs : List Char} {m : Nat}
    (h : lengthBefore? name.toList cs = some m) : NoneBefore name m cs := by
  intro body tag rest hcut htag
  obtain ⟨letters, hfound, -⟩ := htag.closing? hname rest
  rw [List.append_assoc] at hcut
  exact lengthBefore?_le h body hcut (by rw [hfound]; rfl)

/-- Each letter that spells a name is the same as one of the name's. -/
theorem spells_letters {name' letters : List Char} (h : spells name' letters = true) :
    ∀ d ∈ letters, ∃ c ∈ name', Text.sameLetter c d = true := by
  intro d hd
  obtain ⟨hlength, hall⟩ := Bool.and_eq_true_iff.mp h
  obtain ⟨i, hi, rfl⟩ := List.getElem_of_mem hd
  have hi' : i < name'.length := by
    rw [beq_iff_eq.mp hlength]
    exact hi
  refine ⟨name'[i], List.getElem_mem hi', ?_⟩
  have hi'' : i < (name'.zip letters).length := by
    rw [List.length_zip]
    omega
  have hzip := List.getElem_mem hi''
  rw [List.getElem_zip] at hzip
  exact List.all_eq_true.mp hall _ hzip

/-- What is found as an end tag opens no markup behind its front. -/
theorem no_markup_in_closing {cs letters : List Char} {n : Nat} (hname : name ∈ rawElements)
    (h : Markup.closing? name.toList cs = some (letters, n)) :
    ∃ inner rest, cs = '<' :: (inner ++ rest) ∧ n = inner.length + 1 ∧ '<' ∉ inner := by
  obtain ⟨before, after, rest, rfl, hbefore, hafter, hspells, rfl⟩ := closing?_eq_some h
  refine ⟨'/' :: (before ++ letters ++ after) ++ ['>'], rest, by simp, by simp; omega, ?_⟩
  have hblank : Text.isBlank '<' = false := by decide
  have hletter : '<' ∉ letters := by
    intro hmem
    obtain ⟨c, hc, hsame⟩ := spells_letters hspells _ hmem
    have hlower := (sameLetter_iff (mem_rawLetters hname c hc) (by decide)).mp hsame
    have hraw := mem_rawLetters hname c hc
    rw [← hlower] at hraw
    exact absurd hraw (by decide)
  have hfront : '<' ∉ before := fun hmem => by rw [hbefore _ hmem] at hblank; cases hblank
  have hback : '<' ∉ after := fun hmem => by rw [hafter _ hmem] at hblank; cases hblank
  simp [hfront, hback, hletter]

/-- Where letters outside ASCII are found, no end tag stands, nor does one start before they end. -/
theorem noneBefore_of_letters (hname : name ∈ rawElements) {cs letters : List Char} {n : Nat}
    (h : Markup.closing? name.toList cs = some (letters, n)) (hascii : letters.all (·.toNat < 0x80) = false) :
    NoneBefore name n cs := by
  intro body tag rest hcut htag
  obtain ⟨found, hfound, hall⟩ := htag.closing? hname rest
  obtain ⟨inner, more, hcs, rfl, hinner⟩ := no_markup_in_closing hname h
  obtain ⟨before, _, after, htag', -⟩ := htag
  cases body with
  | nil =>
    rw [List.nil_append] at hcut
    rw [← hcut, h, Option.some.injEq, Prod.mk.injEq] at hfound
    rw [hfound.1, hall] at hascii
    cases hascii
  | cons d body =>
    rw [hcs, htag'] at hcut
    have hrest := (List.cons.inj hcut).2
    by_contra hlt
    rw [List.length_cons] at hlt
    have hat := congrArg (·[body.length]?) hrest
    rw [List.getElem?_append_left (by omega)] at hat
    exact hinner (List.mem_of_getElem? (hat.trans (by simp)))

/-- **What stands at the front of raw content**: all of it when no end tag follows; text, in which no end tag
starts; or the end tag. -/
theorem ofRaw_cases (hname : name ∈ rawElements) (c : Char) (rest : List Char) :
    (Piece.ofRaw name (c :: rest) = (⟨.silent, rest.length⟩, some name) ∧ NeverEnds name (c :: rest)) ∨
    (∃ n, Piece.ofRaw name (c :: rest) = (⟨.text, n⟩, some name) ∧ NoneBefore name (n + 1) (c :: rest)) ∨
    ∃ tag later, c :: rest = tag ++ later ∧ IsEndTag name tag ∧
      Piece.ofRaw name (c :: rest) = (⟨.endTag name, tag.length - 1⟩, none) := by
  unfold Piece.ofRaw
  split
  · rename_i hnone
    refine Or.inl ⟨rfl, fun body tag later hcut htag => ?_⟩
    obtain ⟨letters, hfound, -⟩ := htag.closing? hname later
    have hsuffix : tag ++ later <:+ c :: rest := ⟨body, by rw [hcut, List.append_assoc]⟩
    rw [(lengthBefore?_eq_none_iff _ _).mp hnone _ hsuffix] at hfound
    cases hfound
  · rename_i n hn
    exact Or.inr (Or.inl ⟨n, rfl, noneBefore_of_lengthBefore? hname hn⟩)
  · split
    · rename_i hnone
      refine Or.inr (Or.inl ⟨0, rfl, fun body tag later hcut htag => ?_⟩)
      obtain ⟨letters, hfound, -⟩ := htag.closing? hname later
      cases body with
      | nil =>
        rw [List.nil_append] at hcut
        rw [hcut, hfound] at hnone
        cases hnone
      | cons d body => exact Nat.succ_le_succ (Nat.zero_le _)
    · rename_i letters length hfound
      split
      · rename_i hascii
        obtain ⟨tag, later, hcut, htag, rfl⟩ := isEndTag_of_closing? hname hfound hascii
        exact Or.inr (Or.inr ⟨tag, later, hcut, htag, rfl⟩)
      · rename_i hascii
        have hnone := noneBefore_of_letters hname hfound (Bool.eq_false_iff.mpr hascii)
        obtain ⟨inner, more, -, rfl, -⟩ := no_markup_in_closing hname hfound
        exact Or.inr (Or.inl ⟨inner.length, rfl, hnone⟩)

end WordLint.Markup
