import WordLint.Proofs.Automation.Listing
import WordLint.Proofs.Automation.Naming

/-!
# The versions that a project supports

The supported versions are told for any reader of documents. Where a document lists classifiers that name versions, they
are these versions, in ascending order; otherwise it is the current one alone.

**The laws**: they are told exactly where a file is `Tellable` (`supportBy_told`): it is missing, or it is text that is
no document, or it is a document, and all that it may list is usable. For classifiers that spell versions in ASCII, this
means that no number is too long (`supportBy_named`).

Neither holds of all files: bytes that are no text (`support_undecodable`) and a number with one digit too many
(`support_oversized`) put an end to it.
-/

namespace WordLint.Automation

/-! ## From a file to its document -/

section Files

variable {read : Toml.TableReader} {file : Option (List Nat)} {bytes : List Nat} {text : List Char}

theorem documentOfBy_undecodable {f : Text.Utf8Failure} (h : Text.decode bytes = .error f) :
    documentOfBy read (some bytes) = .error (.undecodable f) := by
  rw [documentOfBy, h]
  rfl

/-- A text that is no document counts as an empty one. -/
theorem documentOfBy_text (h : Text.decode bytes = .ok text) :
    documentOfBy read (some bytes) =
      match read (String.ofList (Text.unifyBreaks text)) with
      | .ok entries => .ok entries
      | .error .malformed => .ok []
      | .error (.breakdown b) => .error (.breakdown b) := by
  rw [documentOfBy, h]
  rfl

theorem supportBy_of_error {e : VersionError} (h : documentOfBy read file = .error e) :
    supportBy read file = .error e := by
  rw [supportBy, h]
  rfl

end Files

/-! ## From a document to its versions -/

/-- Some versions, or the current one if there are none. -/
def orCurrent : List Version → List Version
  | [] => [.current]
  | v :: rest => v :: rest

theorem orCurrent_ne_nil (versions : List Version) : orCurrent versions ≠ [] := by
  cases versions <;> exact List.cons_ne_nil _ _

theorem orCurrent_of_mem {versions : List Version} {v : Version} (h : v ∈ versions) : orCurrent versions = versions := by
  cases versions with
  | nil => cases h
  | cons w rest => rfl

theorem orCurrent_of_notMem {versions : List Version} (h : ∀ v, v ∉ versions) : orCurrent versions = [.current] := by
  rw [List.eq_nil_iff_forall_not_mem.mpr h]
  rfl

theorem ascending_orCurrent {versions : List Version} (h : Version.Ascending versions) :
    Version.Ascending (orCurrent versions) := by
  cases versions with
  | nil => exact List.pairwise_singleton _ _
  | cons v rest => exact h

section Documents

variable {read : Toml.TableReader} {file : Option (List Nat)} {entries : Toml.Entries} {items : List Value}

/-- A document without a list of classifiers leaves the current version, and a warning. -/
theorem supportBy_of_unlisted (hdocument : documentOfBy read file = .ok entries)
    (hlisted : listed? (Toml.toPairs entries) = none) :
    supportBy read file = .ok ⟨[.current], some noClassifiers⟩ := by
  rw [← classifiers?_items, Option.map_eq_none_iff] at hlisted
  simp only [supportBy, hdocument, bind, Except.bind, hlisted]
  rfl

/-- What is made of a list of classifiers. -/
theorem supportBy_of_listed (hdocument : documentOfBy read file = .ok entries)
    (hlisted : listed? (Toml.toPairs entries) = some items) :
    ∃ c, supportBy read file = (versionsOf c [] items).map fun versions => ⟨orCurrent versions, none⟩ := by
  rw [← classifiers?_items, Option.map_eq_some_iff] at hlisted
  obtain ⟨c, hc, rfl⟩ := hlisted
  refine ⟨c, ?_⟩
  simp only [supportBy, hdocument, bind, Except.bind, hc]
  cases versionsOf c [] c.items with
  | error e => rfl
  | ok versions => cases versions <;> rfl

/-- Usable items make the versions that they name, or the current one. -/
theorem supportBy_of_usable (hdocument : documentOfBy read file = .ok entries)
    (hlisted : listed? (Toml.toPairs entries) = some items) (husable : ∀ item ∈ items, Usable item) :
    ∃ versions, supportBy read file = .ok ⟨orCurrent versions, none⟩ ∧ Version.Ascending versions ∧
      ∀ v, v ∈ versions ↔ ∃ item ∈ items, Names item v := by
  obtain ⟨c, hsupport⟩ := supportBy_of_listed hdocument hlisted
  obtain ⟨versions, hversions, hascending, hmem⟩ := versionsOf_usable (c := c) husable List.Pairwise.nil
  refine ⟨versions, by rw [hsupport, hversions]; rfl, hascending, fun v => ?_⟩
  rw [hmem, or_iff_right List.not_mem_nil]

/-- An item that is not usable makes an error. -/
theorem supportBy_of_unusable (hdocument : documentOfBy read file = .ok entries)
    (hlisted : listed? (Toml.toPairs entries) = some items) (hunusable : ∃ item ∈ items, ¬ Usable item) :
    ∃ e, supportBy read file = .error e := by
  obtain ⟨c, hsupport⟩ := supportBy_of_listed hdocument hlisted
  obtain ⟨e, he⟩ := versionsOf_unusable (c := c) hunusable List.Pairwise.nil
  exact ⟨e, by rw [hsupport, he]; rfl⟩

/-- Of a document the versions are told when all that it lists is usable. -/
theorem supportBy_of_document_iff (hdocument : documentOfBy read file = .ok entries) :
    (∃ s, supportBy read file = .ok s) ↔
      ∀ items, listed? (Toml.toPairs entries) = some items → ∀ item ∈ items, Usable item := by
  cases hlisted : listed? (Toml.toPairs entries) with
  | none => exact iff_of_true ⟨_, supportBy_of_unlisted hdocument hlisted⟩ (fun _ h => nomatch h)
  | some items =>
    by_cases husable : ∀ item ∈ items, Usable item
    · obtain ⟨versions, hsupport, -⟩ := supportBy_of_usable hdocument hlisted husable
      refine iff_of_true ⟨_, hsupport⟩ fun items' h => ?_
      cases h
      exact husable
    · obtain ⟨e, he⟩ := supportBy_of_unusable hdocument hlisted (by simpa using husable)
      exact iff_of_false (by simp [he]) fun h => husable (h items rfl)

end Documents

/-! ## Files of which the versions are told -/

/-- The file of a project from which its versions can be told, for a reader of documents. -/
inductive Tellable (read : Toml.TableReader) : Option (List Nat) → Prop
  | missing : Tellable read none
  | malformed {bytes text} (htext : Text.decode bytes = .ok text)
      (hread : read (String.ofList (Text.unifyBreaks text)) = .error .malformed) : Tellable read (some bytes)
  | document {bytes text entries} (htext : Text.decode bytes = .ok text)
      (hread : read (String.ofList (Text.unifyBreaks text)) = .ok entries)
      (husable : ∀ items, listed? (Toml.toPairs entries) = some items → ∀ item ∈ items, Usable item) :
      Tellable read (some bytes)

/-- Versions can be told from a file that has a document, if all that it lists is usable. -/
theorem tellable_iff (read : Toml.TableReader) (file : Option (List Nat)) :
    Tellable read file ↔ ∃ entries, documentOfBy read file = .ok entries ∧
      ∀ items, listed? (Toml.toPairs entries) = some items → ∀ item ∈ items, Usable item := by
  have hempty : ∀ items, listed? (Toml.toPairs []) = some items → ∀ item ∈ items, Usable item := nofun
  constructor
  · rintro (_ | ⟨htext, hread⟩ | ⟨htext, hread, husable⟩)
    · exact ⟨[], rfl, hempty⟩
    · exact ⟨[], by rw [documentOfBy_text htext, hread], hempty⟩
    · exact ⟨_, by rw [documentOfBy_text htext, hread], husable⟩
  · rintro ⟨entries, hdocument, husable⟩
    cases file with
    | none => exact .missing
    | some bytes =>
      cases htext : Text.decode bytes with
      | error f =>
        rw [documentOfBy_undecodable htext] at hdocument
        cases hdocument
      | ok text =>
        rw [documentOfBy_text htext] at hdocument
        cases hread : read (String.ofList (Text.unifyBreaks text)) with
        | ok entries' =>
          rw [hread] at hdocument
          cases hdocument
          exact .document htext hread husable
        | error e =>
          cases e with
          | malformed => exact .malformed htext hread
          | breakdown b =>
            rw [hread] at hdocument
            cases hdocument

/-- Nothing that the document of a file may list names a version. -/
def Nameless (read : Toml.TableReader) (file : Option (List Nat)) : Prop :=
  ∀ entries items, documentOfBy read file = .ok entries → listed? (Toml.toPairs entries) = some items →
    ∀ item ∈ items, ∀ v, ¬ Names item v

/-- **The supported versions are told** exactly where a file is tellable. There is one at least, and it is the current one
where no version is named; where a document lists no classifiers at all, a warning says so. -/
theorem supportBy_told (read : Toml.TableReader) (file : Option (List Nat)) :
    ((∃ s, supportBy read file = .ok s) ↔ Tellable read file) ∧
      (∀ s, supportBy read file = .ok s → s.versions ≠ [] ∧ (Nameless read file → s.versions = [.current])) ∧
      ∀ entries, documentOfBy read file = .ok entries → listed? (Toml.toPairs entries) = none →
        supportBy read file = .ok ⟨[.current], some noClassifiers⟩ := by
  refine ⟨?_, fun s hs => ?_, fun entries => supportBy_of_unlisted⟩
  · rw [tellable_iff]
    cases hdocument : documentOfBy read file with
    | error e => simp [supportBy_of_error hdocument]
    | ok entries => simp [supportBy_of_document_iff hdocument]
  · cases hdocument : documentOfBy read file with
    | error e =>
      rw [supportBy_of_error hdocument] at hs
      cases hs
    | ok entries =>
      cases hlisted : listed? (Toml.toPairs entries) with
      | none =>
        rw [supportBy_of_unlisted hdocument hlisted] at hs
        cases hs
        exact ⟨List.cons_ne_nil _ _, fun _ => rfl⟩
      | some items =>
        have husable := (supportBy_of_document_iff hdocument).mp ⟨s, hs⟩ items hlisted
        obtain ⟨versions, hsupport, -, hmem⟩ := supportBy_of_usable hdocument hlisted husable
        rw [hsupport] at hs
        cases hs
        refine ⟨orCurrent_ne_nil versions, fun hnameless => orCurrent_of_notMem fun v hv => ?_⟩
        obtain ⟨item, hitem, hnames⟩ := (hmem v).mp hv
        exact hnameless entries items hdocument hlisted item hitem v hnames

/-- A byte that no text begins with. -/
theorem support_undecodable :
    support (some [0xFF]) = .error (.undecodable ⟨0, 0xFF, 1, .invalidStart⟩) := by
  decide +kernel

/-! ## Lists of classifiers -/

/-- A file has a document that lists some classifiers, for a reader of documents. -/
def Lists (read : Toml.TableReader) (file : Option (List Nat)) (classifiers : List String) : Prop :=
  ∃ entries, documentOfBy read file = .ok entries ∧ listed? (Toml.toPairs entries) = some (classifiers.map .str)

/-- What some classifiers spell, they spell in digits of ASCII. -/
def InAscii (classifiers : List String) : Prop :=
  ∀ s ∈ classifiers, ∀ major minor, Spells s.toList major minor → ∀ c ∈ major ++ minor, c.isDigit = true

/-- What some classifiers spell has no more digits than are read. -/
def Short (classifiers : List String) : Prop :=
  ∀ s ∈ classifiers, ∀ major minor, Spells s.toList major minor →
    major.length ≤ Text.maxDigits ∧ minor.length ≤ Text.maxDigits

/-- One of some classifiers is the numeral of a version. -/
def Named (classifiers : List String) (v : Version) : Prop :=
  ∃ s ∈ classifiers, ∃ major minor, Spells s.toList major minor ∧
    v.major = Nat.ofDigitChars 10 major 0 ∧ v.minor = Nat.ofDigitChars 10 minor 0

section Classifiers

variable {read : Toml.TableReader} {file : Option (List Nat)} {classifiers : List String}

/-- Classifiers that are written in ASCII spell what they spell in ASCII. -/
theorem inAscii_of_ascii (h : ∀ s ∈ classifiers, s.toList.all (·.toNat < 0x80) = true) : InAscii classifiers := by
  intro s hs major minor hspells c hc
  have hsign : Text.isDigitSign c = true :=
    (List.mem_append.mp hc).elim (hspells.major_signs.2 c) (hspells.minor_signs.2 c)
  exact Text.isDigit_of_ascii hsign (List.all_iff_forall_prop.mp (h s hs) c (hspells.sublist.subset hc))

/-- Classifiers that are not too long themselves spell nothing that is. -/
theorem short_of_length (h : ∀ s ∈ classifiers, s.toList.length ≤ Text.maxDigits) : Short classifiers := by
  intro s hs major minor hspells
  have hlength := hspells.sublist.length_le.trans (h s hs)
  rw [List.length_append] at hlength
  exact ⟨by omega, by omega⟩

theorem lists_listing (hascii : (listingText classifiers).all (·.toNat < 0x80) = true)
    (hread : ∀ s ∈ classifiers, Toml.ReadsBack s.toList) :
    Lists Toml.readTables (some (listing classifiers)) classifiers :=
  ⟨_, documentOfBy_listing (List.all_iff_forall_prop.mp hascii) hread, listed?_listingEntries classifiers⟩

theorem usable_iff (hascii : InAscii classifiers) :
    (∀ item ∈ classifiers.map Value.str, Usable item) ↔ Short classifiers := by
  rw [List.forall_mem_map]
  refine forall₂_congr fun s hs => ?_
  constructor
  · rintro ⟨_, heq, hlegible⟩ major minor hspells
    cases heq
    exact ⟨(hlegible major minor hspells).1.2, (hlegible major minor hspells).2.2⟩
  · intro hshort
    refine ⟨s, rfl, fun major minor hspells => ?_⟩
    obtain ⟨hmajor, hminor⟩ := hshort major minor hspells
    have hdigits := hascii s hs major minor hspells
    exact ⟨⟨fun c hc => (Text.digits_ascii (hdigits c (List.mem_append_left _ hc))).1, hmajor⟩,
      ⟨fun c hc => (Text.digits_ascii (hdigits c (List.mem_append_right _ hc))).1, hminor⟩⟩

theorem names_iff (hascii : InAscii classifiers) (v : Version) :
    (∃ item ∈ classifiers.map Value.str, Names item v) ↔ Named classifiers v := by
  have hnumbers {s : String} (hs : s ∈ classifiers) {major minor : List Char} (hspells : Spells s.toList major minor) :
      Text.numberOf major = Nat.ofDigitChars 10 major 0 ∧ Text.numberOf minor = Nat.ofDigitChars 10 minor 0 := by
    have hdigits := hascii s hs major minor hspells
    exact ⟨Text.numberOf_ascii fun c hc => hdigits c (List.mem_append_left _ hc),
      Text.numberOf_ascii fun c hc => hdigits c (List.mem_append_right _ hc)⟩
  constructor
  · rintro ⟨_, hitem, s, major, minor, rfl, hspells, rfl⟩
    obtain ⟨_, hs, heq⟩ := List.mem_map.mp hitem
    cases heq
    exact ⟨s, hs, major, minor, hspells, hnumbers hs hspells⟩
  · rintro ⟨s, hs, major, minor, hspells, hmajor, hminor⟩
    refine ⟨.str s, List.mem_map_of_mem hs, s, major, minor, rfl, hspells, ?_⟩
    rw [(hnumbers hs hspells).1, (hnumbers hs hspells).2, ← hmajor, ← hminor]

/-- The classifiers of a list make the versions that they name, or the current one, unless one is too long. -/
theorem supportBy_of_lists (hlists : Lists read file classifiers) (hascii : InAscii classifiers) :
    (Short classifiers → ∃ versions, supportBy read file = .ok ⟨orCurrent versions, none⟩ ∧
        Version.Ascending versions ∧ ∀ v, v ∈ versions ↔ Named classifiers v) ∧
      (¬ Short classifiers → ∃ e, supportBy read file = .error e) := by
  obtain ⟨entries, hdocument, hlisted⟩ := hlists
  rw [← usable_iff hascii]
  constructor
  · intro husable
    obtain ⟨versions, hsupport, hascending, hmem⟩ := supportBy_of_usable hdocument hlisted husable
    exact ⟨versions, hsupport, hascending, fun v => (hmem v).trans (names_iff hascii v)⟩
  · intro hunusable
    exact supportBy_of_unusable hdocument hlisted (by simpa only [not_forall, exists_prop] using hunusable)

theorem Named.of_subset {classifiers' : List String} {v : Version} (h : classifiers ⊆ classifiers')
    (hv : Named classifiers v) : Named classifiers' v := by
  obtain ⟨s, hs, hspells⟩ := hv
  exact ⟨s, h hs, hspells⟩

/-- **Classifiers of versions in ASCII** are told unless one has too many digits. What is told are the versions that they
name, in ascending order and each of them once, whatever the order of the classifiers and however often they occur; and
if they name none, it is the current version. -/
theorem supportBy_named (hlists : Lists read file classifiers) (hascii : InAscii classifiers) :
    ((∃ s, supportBy read file = .ok s) ↔ Short classifiers) ∧
      ∀ s, supportBy read file = .ok s →
        Version.Ascending s.versions ∧ (s.versions.map Version.text).Nodup ∧
        ((∃ v, Named classifiers v) → ∀ major minor : Nat,
          s!"{major}.{minor}" ∈ s.versions.map Version.text ↔ Named classifiers ⟨major, minor⟩) ∧
        ((¬ ∃ v, Named classifiers v) → s.versions = [.current]) ∧
        ∀ file' classifiers', Lists read file' classifiers' → (∀ s, s ∈ classifiers' ↔ s ∈ classifiers) →
          supportBy read file' = .ok s := by
  obtain ⟨hshort, hlong⟩ := supportBy_of_lists hlists hascii
  by_cases h : Short classifiers
  · obtain ⟨versions, hsupport, hascending, hmem⟩ := hshort h
    refine ⟨iff_of_true ⟨_, hsupport⟩ h, fun s hs => ?_⟩
    rw [hsupport] at hs
    cases hs
    have hall := ascending_orCurrent hascending
    refine ⟨hall, hall.nodup_texts, ?_, ?_, ?_⟩
    · rintro ⟨v, hv⟩ major minor
      rw [orCurrent_of_mem ((hmem v).mpr hv), ← hmem]
      exact Version.mem_texts
    · intro hnone
      exact orCurrent_of_notMem fun v hv => hnone ⟨v, (hmem v).mp hv⟩
    · intro file' classifiers' hlists' hsame
      have hascii' : InAscii classifiers' := fun s hs => hascii s ((hsame s).mp hs)
      have hshort' : Short classifiers' := fun s hs => h s ((hsame s).mp hs)
      obtain ⟨versions', hsupport', hascending', hmem'⟩ := (supportBy_of_lists hlists' hascii').1 hshort'
      have hversions : versions' = versions := hascending'.eq_of_mem_iff hascending fun v => by
        rw [hmem', hmem]
        exact ⟨Named.of_subset fun s => (hsame s).mp, Named.of_subset fun s => (hsame s).mpr⟩
      rw [hsupport', hversions]
  · obtain ⟨e, he⟩ := hlong h
    have hnone : ¬ ∃ s, supportBy read file = .ok s := by simp [he]
    exact ⟨iff_of_false hnone h, fun s hs => absurd ⟨s, hs⟩ hnone⟩

end Classifiers

/-- Two classifiers of versions, of which the greater one comes first, and one of no version. -/
theorem supportBy_named_listing :
    let classifiers := ["Programming Language :: Python :: 3.10", "Programming Language :: Python :: 3",
      "Programming Language :: Python :: 3.09 "]
    ∃ s, support (some (listing classifiers)) = .ok s ∧ Version.Ascending s.versions ∧
      "3.9" ∈ s.versions.map Version.text ∧ "3.10" ∈ s.versions.map Version.text := by
  intro classifiers
  have hlists : Lists Toml.readTables (some (listing classifiers)) classifiers :=
    lists_listing (by decide +kernel) (by decide +kernel)
  have hascii : InAscii classifiers := inAscii_of_ascii (by decide +kernel)
  have hpart {part : List Char} (h : isVersionPart part = true) : Signs part := isVersionPart_iff.mp h
  have hnine : Named classifiers ⟨3, 9⟩ :=
    ⟨"Programming Language :: Python :: 3.09 ", by simp [classifiers], ['3'], ['0', '9'],
      ⟨hpart (by decide +kernel), hpart (by decide +kernel), [], [' '], by decide +kernel, by simp, by simp; decide⟩,
      rfl, rfl⟩
  have hten : Named classifiers ⟨3, 10⟩ :=
    ⟨"Programming Language :: Python :: 3.10", by simp [classifiers], ['3'], ['1', '0'],
      ⟨hpart (by decide +kernel), hpart (by decide +kernel), [], [], by decide +kernel, by simp, by simp⟩, rfl, rfl⟩
  obtain ⟨htold, hnamed⟩ := supportBy_named hlists hascii
  obtain ⟨s, hs⟩ := htold.mpr (short_of_length (by decide +kernel))
  obtain ⟨hascending, -, htexts, -⟩ := hnamed s hs
  exact ⟨s, hs, hascending, (htexts ⟨_, hnine⟩ 3 9).mpr hnine, (htexts ⟨_, hten⟩ 3 10).mpr hten⟩

/-- A version whose second number has one digit too many is named, and cannot be told. -/
theorem support_oversized :
    let ones := List.replicate (Text.maxDigits + 1) '1'
    let classifiers := [String.ofList (family ++ '3' :: '.' :: ones)]
    Lists Toml.readTables (some (listing classifiers)) classifiers ∧ InAscii classifiers ∧
      Named classifiers ⟨3, Nat.ofDigitChars 10 ones 0⟩ ∧ ¬ ∃ s, support (some (listing classifiers)) = .ok s := by
  intro ones classifiers
  have hlists : Lists Toml.readTables (some (listing classifiers)) classifiers := by
    refine lists_listing ?_ ?_
    · simp only [listingText, listingLine, classifiers, List.map_cons, List.map_nil, String.toList_ofList]
      decide +kernel
    · simp only [classifiers, List.forall_mem_singleton, String.toList_ofList]
      decide +kernel
  have hascii : InAscii classifiers := by
    refine inAscii_of_ascii ?_
    simp only [classifiers, List.forall_mem_singleton, String.toList_ofList]
    decide +kernel
  have hspells : Spells (String.ofList (family ++ '3' :: '.' :: ones)).toList ['3'] ones := by
    refine ⟨isVersionPart_iff.mp (by decide +kernel), ⟨by simp [ones], fun c hc => ?_⟩, [], [], by simp, by simp, by simp⟩
    rw [List.eq_of_mem_replicate hc]
    decide +kernel
  have hmem : String.ofList (family ++ '3' :: '.' :: ones) ∈ classifiers := List.mem_singleton_self _
  have hlong : ¬ Short classifiers := by
    intro hshort
    have hones := (hshort _ hmem ['3'] ones hspells).2
    rw [List.length_replicate] at hones
    omega
  obtain ⟨e, he⟩ := (supportBy_of_lists hlists hascii).2 hlong
  exact ⟨hlists, hascii, ⟨_, hmem, ['3'], ones, hspells, by decide, by dsimp only⟩, by simp [support, he]⟩

end WordLint.Automation
