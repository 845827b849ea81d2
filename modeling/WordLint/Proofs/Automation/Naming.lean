import WordLint.Automation.Versions
import WordLint.Proofs.Text.Cuts
import WordLint.Proofs.Text.Digits

/-!
# The versions that classifiers name

A classifier names a version when it spells one (`Spells`): behind the name of the family stand two parts of digit
signs with a point between them, and blanks around them at most. Digit signs need not make a numeral, and an item of a
list need not be a text: an item is `Usable` when it is one, and whatever it spells is `Legible`.

**The law** (`versionsOf_usable`, `versionsOf_unusable`): where all items are usable, the versions are those that some
item names, in ascending order, each of them once. Where one is not, there are none.
-/

namespace WordLint

namespace Version

/-! ## Ascending order -/

/-- A version as the pair of its numbers, of which the first one counts most. -/
def pair (v : Version) : ℕ ×ₗ ℕ :=
  toLex (v.major, v.minor)

theorem pair_injective : Function.Injective pair := by
  rintro ⟨major, minor⟩ ⟨major', minor'⟩ h
  cases toLex.injective h
  rfl

theorem before_iff {v w : Version} : v.before w = true ↔ v.pair < w.pair := by
  simp [before, pair, Prod.Lex.toLex_lt_toLex]

/-- Each version comes before all that stand behind it. -/
def Ascending (versions : List Version) : Prop :=
  versions.Pairwise fun v w => v.pair < w.pair

variable {v w : Version} {versions versions' : List Version}

theorem mem_insert : w ∈ v.insert versions ↔ w = v ∨ w ∈ versions := by
  fun_induction Version.insert v versions with
  | case1 => simp
  | case2 rest => simp
  | case3 x rest _ _ => simp
  | case4 x rest _ _ ih =>
    rw [List.mem_cons, ih, List.mem_cons]
    exact or_left_comm

/-- A version that is put in its place leaves the order ascending. -/
theorem ascending_insert (h : Ascending versions) : Ascending (v.insert versions) := by
  fun_induction Version.insert v versions with
  | case1 => exact List.pairwise_singleton _ _
  | case2 rest => exact h
  | case3 x rest _ hbefore =>
    have hfirst : v.pair < x.pair := before_iff.mp hbefore
    refine List.pairwise_cons.mpr ⟨fun w hw => ?_, h⟩
    rcases List.mem_cons.mp hw with rfl | hw
    · exact hfirst
    · exact hfirst.trans ((List.pairwise_cons.mp h).1 w hw)
  | case4 x rest hne hbefore ih =>
    obtain ⟨hx, hrest⟩ := List.pairwise_cons.mp h
    refine List.pairwise_cons.mpr ⟨fun w hw => ?_, ih hrest⟩
    rcases mem_insert.mp hw with rfl | hw
    · exact lt_of_le_of_ne (not_lt.mp fun hlt => hbefore (before_iff.mpr hlt)) fun heq => hne (pair_injective heq.symm)
    · exact hx w hw

/-- Only one list in ascending order has given members. -/
theorem Ascending.eq_of_mem_iff (h : Ascending versions) (h' : Ascending versions')
    (hmem : ∀ v, v ∈ versions ↔ v ∈ versions') : versions = versions' := by
  refine List.map_injective_iff.mpr pair_injective
    (List.Pairwise.eq_of_mem_iff (List.pairwise_map.mpr h) (List.pairwise_map.mpr h') fun p => ?_)
  simp only [List.mem_map, hmem]

/-! ## Texts of versions -/

theorem toList_text (v : Version) : v.text.toList = Text.decimal v.major ++ '.' :: Text.decimal v.minor := by
  simp [text, Text.decimal, toString, Nat.repr]

/-- No two versions have one text. -/
theorem text_injective : Function.Injective text := by
  intro v w h
  have hpoint (n : Nat) : '.' ∉ Text.decimal n := fun hmem =>
    absurd (Nat.isDigit_of_mem_toDigits (by decide) (by decide) hmem) (by decide)
  have hlists : Text.decimal v.major ++ '.' :: Text.decimal v.minor =
      Text.decimal w.major ++ '.' :: Text.decimal w.minor := by
    rw [← toList_text, ← toList_text, h]
  obtain ⟨hmajor, -, hminor⟩ := (List.append_cons_inj_of_notMem (hpoint _) (hpoint _)).mp hlists
  have hdecimal : Function.Injective Text.decimal :=
    Function.LeftInverse.injective (g := fun cs => Nat.ofDigitChars 10 cs 0) fun _ =>
      Nat.ofDigitChars_toDigits (by decide) (by decide)
  cases v
  cases w
  rw [Version.mk.injEq]
  exact ⟨hdecimal hmajor, hdecimal hminor⟩

/-- A text is among those of some versions when its numbers are those of one of them. -/
theorem mem_texts {major minor : Nat} : s!"{major}.{minor}" ∈ versions.map text ↔ ⟨major, minor⟩ ∈ versions :=
  List.mem_map_of_injective text_injective (a := ⟨major, minor⟩)

theorem Ascending.nodup_texts (h : Ascending versions) : (versions.map text).Nodup := by
  have hnodup : versions.Nodup := h.imp fun hlt heq => hlt.ne (congrArg pair heq)
  exact hnodup.map text_injective

end Version

namespace Automation

/-! ## Parts of a version -/

/-- The signs of a part: digit signs, at least one. -/
def Signs (part : List Char) : Prop :=
  part ≠ [] ∧ ∀ c ∈ part, Text.isDigitSign c = true

/-- A part is a numeral: decimal digits, and no more of them than are read. -/
def Legible (part : List Char) : Prop :=
  (∀ c ∈ part, Text.isDecimal c = true) ∧ part.length ≤ Text.maxDigits

variable {part classifier major minor : List Char}

theorem isVersionPart_iff : isVersionPart part = true ↔ Signs part := by
  simp [isVersionPart, Signs]

theorem Signs.point (h : Signs part) : '.' ∉ part :=
  fun hmem => absurd (h.2 _ hmem) (by decide)

theorem partNumber_legible (hsigns : Signs part) (h : Legible part) :
    partNumber part = .ok (Text.numberOf part) := by
  rw [partNumber, Text.readInt_decimals hsigns.1 h.1, if_neg (by have := h.2; omega)]
  rfl

theorem partNumber_illegible (hsigns : Signs part) (h : ¬ Legible part) : ∃ e, partNumber part = .error e := by
  by_cases hdecimal : ∀ c ∈ part, Text.isDecimal c = true
  · have hlong : Text.maxDigits < part.length := by
      by_contra hshort
      exact h ⟨hdecimal, by omega⟩
    rw [partNumber, Text.readInt_decimals hsigns.1 hdecimal, if_pos hlong]
    exact ⟨_, rfl⟩
  · rw [partNumber, Text.readInt_digitSigns hsigns.2 (by simpa using hdecimal)]
    exact ⟨_, rfl⟩

/-! ## One classifier -/

/-- A classifier spells a version in two parts. -/
structure Spells (classifier major minor : List Char) : Prop where
  major_signs : Signs major
  minor_signs : Signs minor
  around : ∃ lead tail, classifier = family ++ (lead ++ (major ++ '.' :: minor) ++ tail) ∧
    (∀ c ∈ lead, Text.isBlank c = true) ∧ ∀ c ∈ tail, Text.isBlank c = true

/-- A version is spelled where a classifier of the family is cut in two parts of digit signs. -/
theorem spells_iff : Spells classifier major minor ↔ (Signs major ∧ Signs minor) ∧
    family.isPrefixOf classifier = true ∧
      Text.cutAt '.' (Text.trim (classifier.drop family.length)) = [major, minor] := by
  rw [List.isPrefixOf_iff_prefix, Text.cutAt_eq_pair_iff]
  constructor
  · rintro ⟨hmajor, hminor, lead, tail, rfl, hlead, htail⟩
    have hinside : ∀ c ∈ major ++ '.' :: minor, Text.isBlank c = false := by
      intro c hc
      rcases List.mem_append.mp hc with hc | hc
      · exact Text.isBlank_digitSign (hmajor.2 c hc)
      rcases List.mem_cons.mp hc with rfl | hc
      · decide
      · exact Text.isBlank_digitSign (hminor.2 c hc)
    refine ⟨⟨hmajor, hminor⟩, List.prefix_append _ _, ?_, hmajor.point, hminor.point⟩
    rw [List.drop_left, Text.trim_around hlead hinside htail]
  · rintro ⟨⟨hmajor, hminor⟩, hfamily, hcut, -⟩
    obtain ⟨lead, tail, hbody, hlead, htail⟩ := Text.exists_trim (classifier.drop family.length)
    refine ⟨hmajor, hminor, lead, tail, ?_, hlead, htail⟩
    rw [← hcut, ← hbody]
    exact List.prefix_append_drop hfamily

theorem Spells.unique {major' minor' : List Char} (h : Spells classifier major minor)
    (h' : Spells classifier major' minor') : major' = major ∧ minor' = minor := by
  have hcut := (spells_iff.mp h).2.2
  rw [(spells_iff.mp h').2.2] at hcut
  simpa using hcut

/-- What is spelled stands in the classifier. -/
theorem Spells.sublist (h : Spells classifier major minor) : (major ++ minor).Sublist classifier := by
  obtain ⟨lead, tail, rfl, -, -⟩ := h.around
  have hpair : (major ++ minor).Sublist (major ++ '.' :: minor) :=
    (List.sublist_cons_self '.' minor).append_left major
  exact ((hpair.trans (List.sublist_append_right lead _)).trans (List.sublist_append_left _ tail)).trans
    (List.sublist_append_right family _)

theorem versionOf_spells (h : Spells classifier major minor) :
    versionOf classifier = do return some ⟨← partNumber major, ← partNumber minor⟩ := by
  obtain ⟨⟨hmajor, hminor⟩, hfamily, hcut⟩ := spells_iff.mp h
  have hparts : (isVersionPart major && isVersionPart minor) = true := by
    rw [Bool.and_eq_true, isVersionPart_iff, isVersionPart_iff]
    exact ⟨hmajor, hminor⟩
  simp [versionOf, hfamily, hcut, hparts]

theorem versionOf_other (h : ∀ major minor, ¬ Spells classifier major minor) : versionOf classifier = .ok none := by
  unfold versionOf
  split
  · rfl
  rename_i hfamily
  split
  · rename_i major minor hcut
    split
    · rename_i hparts
      rw [Bool.and_eq_true, isVersionPart_iff, isVersionPart_iff] at hparts
      exact absurd (spells_iff.mpr ⟨hparts, by simpa using hfamily, hcut⟩) (h major minor)
    · rfl
  · rfl

/-! ## Items of a list -/

/-- An item of a list names a version: it is a text that spells the two numbers. -/
def Names (item : Value) (v : Version) : Prop :=
  ∃ s major minor, item = .str s ∧ Spells s.toList major minor ∧ v = ⟨Text.numberOf major, Text.numberOf minor⟩

/-- An item of a list is a text, and what it spells are numerals. -/
def Usable (item : Value) : Prop :=
  ∃ s, item = .str s ∧ ∀ major minor, Spells s.toList major minor → Legible major ∧ Legible minor

variable {c : Classifiers} {item : Value} {items : List Value} {found : List Version}

/-- A usable item adds the versions that it names, of which there is one at most. -/
theorem versionsOf_cons_usable (h : Usable item) (hfound : Version.Ascending found) :
    ∃ found', (∀ rest, versionsOf c found (item :: rest) = versionsOf c found' rest) ∧ Version.Ascending found' ∧
      ∀ v, v ∈ found' ↔ v ∈ found ∨ Names item v := by
  obtain ⟨s, rfl, hlegible⟩ := h
  by_cases hspells : ∃ major minor, Spells s.toList major minor
  · obtain ⟨major, minor, hspells⟩ := hspells
    obtain ⟨hmajor, hminor⟩ := hlegible major minor hspells
    have hversion : versionOf s.toList = .ok (some ⟨Text.numberOf major, Text.numberOf minor⟩) := by
      rw [versionOf_spells hspells, partNumber_legible hspells.major_signs hmajor,
        partNumber_legible hspells.minor_signs hminor]
      rfl
    refine ⟨Version.insert ⟨Text.numberOf major, Text.numberOf minor⟩ found, fun rest => ?_,
      Version.ascending_insert hfound, fun v => ?_⟩
    · rw [versionsOf, hversion]
      rfl
    · rw [Version.mem_insert, or_comm]
      refine or_congr_right ⟨fun hv => ⟨s, major, minor, rfl, hspells, hv⟩, ?_⟩
      rintro ⟨_, major', minor', heq, hspells', rfl⟩
      cases heq
      obtain ⟨rfl, rfl⟩ := hspells.unique hspells'
      rfl
  · have hversion : versionOf s.toList = .ok none :=
      versionOf_other fun major minor hs => hspells ⟨major, minor, hs⟩
    refine ⟨found, fun rest => ?_, hfound, fun v => (or_iff_left ?_).symm⟩
    · rw [versionsOf, hversion]
      rfl
    · rintro ⟨_, major, minor, heq, hs, -⟩
      cases heq
      exact hspells ⟨major, minor, hs⟩

/-- An item that is not usable puts an end to it. -/
theorem versionsOf_cons_unusable (h : ¬ Usable item) (rest : List Value) :
    ∃ e, versionsOf c found (item :: rest) = .error e := by
  by_cases htext : ∃ s, item = .str s
  · obtain ⟨s, rfl⟩ := htext
    have hillegible : ∃ major minor, Spells s.toList major minor ∧ ¬ (Legible major ∧ Legible minor) := by
      by_contra hnone
      refine h ⟨s, rfl, fun major minor hspells => ?_⟩
      by_contra hlegible
      exact hnone ⟨major, minor, hspells, hlegible⟩
    obtain ⟨major, minor, hspells, hillegible⟩ := hillegible
    rw [versionsOf, versionOf_spells hspells]
    by_cases hmajor : Legible major
    · obtain ⟨e, he⟩ := partNumber_illegible hspells.minor_signs fun hminor => hillegible ⟨hmajor, hminor⟩
      rw [partNumber_legible hspells.major_signs hmajor, he]
      exact ⟨e, rfl⟩
    · obtain ⟨e, he⟩ := partNumber_illegible hspells.major_signs hmajor
      rw [he]
      exact ⟨e, rfl⟩
  · refine ⟨.notText (c.typeName item), ?_⟩
    cases item with
    | str s => exact absurd ⟨s, rfl⟩ htext
    | _ => rfl

/-! ## All items -/

/-- **Usable items** give the versions that they name, in ascending order, besides those found before. -/
theorem versionsOf_usable (h : ∀ item ∈ items, Usable item) (hfound : Version.Ascending found) :
    ∃ versions, versionsOf c found items = .ok versions ∧ Version.Ascending versions ∧
      ∀ v, v ∈ versions ↔ v ∈ found ∨ ∃ item ∈ items, Names item v := by
  induction items generalizing found with
  | nil => exact ⟨found, rfl, hfound, fun v => by simp⟩
  | cons item rest ih =>
    obtain ⟨hitem, hrest⟩ := List.forall_mem_cons.mp h
    obtain ⟨found', hstep, hfound', hmem'⟩ := versionsOf_cons_usable hitem hfound
    obtain ⟨versions, hversions, hascending, hmem⟩ := ih hrest hfound'
    refine ⟨versions, (hstep rest).trans hversions, hascending, fun v => ?_⟩
    rw [hmem, hmem', List.exists_mem_cons_iff, or_assoc]

/-- **An item that is not usable**, wherever it stands, leaves no versions. -/
theorem versionsOf_unusable (h : ∃ item ∈ items, ¬ Usable item) (hfound : Version.Ascending found) :
    ∃ e, versionsOf c found items = .error e := by
  induction items generalizing found with
  | nil =>
    obtain ⟨item, hitem, -⟩ := h
    cases hitem
  | cons item rest ih =>
    by_cases hitem : Usable item
    · have hrest : ∃ item ∈ rest, ¬ Usable item :=
        ((List.exists_mem_cons_iff _ _ _).mp h).resolve_left fun hunusable => hunusable hitem
      obtain ⟨found', hstep, hfound', -⟩ := versionsOf_cons_usable (c := c) hitem hfound
      rw [hstep rest]
      exact ih hrest hfound'
    · exact versionsOf_cons_unusable hitem rest

end Automation

end WordLint
