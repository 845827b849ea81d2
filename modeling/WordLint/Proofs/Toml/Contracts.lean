import Mathlib
import WordLint.Proofs.Toml.Tables
import WordLint.Toml.Draft
import WordLint.Toml.Pass

/-!
# What is asked of writers and readers

Configurations are written and read by others. What is relied on is laid down here, for documents of lines, as
far as the format documents it:

* a writer spells tables with arrays of texts as lines, the header of each table and below it its keys; whatever
  else it writes are blank lines and comments. A table whose name is taken is refused (`Writes`);
* a reader gives the lines their effects, as far as it keeps names and texts as they are (`ReadsLines`);
* a reader passes over a line that is blank or a comment (`PassesOver`).

None of this says how a comment is spelled, where blank lines stand, or what becomes of names and texts that the
reader does not keep. From passing over one line follows that documents with the same headers and keys are read
alike (`PassesOver.read_eq`).
-/

namespace WordLint.Toml

/-! ## Tables with arrays of texts -/

/-- A name that needs no marks. -/
def IsBareName (name : String) : Prop :=
  name.toList ≠ [] ∧ ∀ c ∈ name.toList, isBare c

/-- A table whose entries are arrays of texts. -/
structure TextTable where
  name : String
  comment : String
  arrays : List (String × List String)

namespace TextTable

/-- The table as it is put into a draft. -/
def toDraft (t : TextTable) : DraftTable :=
  ⟨t.name, t.comment, t.arrays.map fun a => (.str a.1, .list (a.2.map .str))⟩

/-- The keys and texts as characters. -/
def groups (t : TextTable) : List (List Char × List (List Char)) :=
  t.arrays.map fun a => (a.1.toList, a.2.map String.toList)

/-- The header of the table and its keys. -/
def lines (parent : String) (t : TextTable) : List Line :=
  .header parent.toList t.name.toList :: entryLines t.groups

/-- Every key is a bare name, and no key stands twice. -/
structure Keyed (t : TextTable) : Prop where
  bare : ∀ a ∈ t.arrays, IsBareName a.1
  distinct : (t.arrays.map Prod.fst).Nodup

theorem Keyed.groups_nodup {t : TextTable} (h : t.Keyed) : (t.groups.map Prod.fst).Nodup := by
  have hkeys : t.groups.map Prod.fst = (t.arrays.map Prod.fst).map String.toList := by
    rw [groups, List.map_map, List.map_map]
    rfl
  rw [hkeys]
  exact h.distinct.map fun _ _ heq => String.toList_inj.mp heq

end TextTable

/-- A document that has tables with arrays of texts inside one table. -/
structure TextDraft where
  comments : List String
  parent : String
  tables : List TextTable

namespace TextDraft

/-- The document as it is put together. -/
def toDraft (d : TextDraft) : Draft :=
  ⟨d.comments, d.parent, d.tables.map TextTable.toDraft⟩

/-- The names of the tables. -/
def names (d : TextDraft) : List String :=
  d.tables.map (·.name)

/-- What the document says: the headers of its tables, and the keys below each. -/
def lines (d : TextDraft) : List Line :=
  d.tables.flatMap (·.lines d.parent)

/-- The name around the tables is bare, and so are their keys. -/
structure Keyed (d : TextDraft) : Prop where
  parent : IsBareName d.parent
  tables : ∀ t ∈ d.tables, t.Keyed

end TextDraft

/-! ## Writers -/

/-- A name that is taken, the first one in a list. -/
def FirstTaken (names : List String) (name : String) : Prop :=
  ∃ before after, names = before ++ name :: after ∧ before.Nodup ∧ name ∈ before

/-- Where a name stands twice, there is a first one that is taken. -/
theorem exists_firstTaken {names : List String} (h : ¬ names.Nodup) : ∃ name, FirstTaken names name := by
  induction names using List.reverseRecOn with
  | nil => exact absurd List.nodup_nil h
  | append_singleton names name ih =>
    by_cases hnames : names.Nodup
    · refine ⟨name, names, [], rfl, hnames, ?_⟩
      by_contra hnew
      exact h (List.nodup_append.mpr ⟨hnames, List.nodup_singleton name, fun a ha b hb hab =>
        hnew (List.mem_singleton.mp hb ▸ hab ▸ ha)⟩)
    · obtain ⟨taken, before, after, hsplit, htaken⟩ := ih hnames
      exact ⟨taken, before, after ++ [name], by rw [hsplit]; simp, htaken⟩

/-- What is asked of a writer. -/
structure Writes (write : Writer) : Prop where
  /-- Tables are spelled as their headers and keys, in order; all other lines are blank or comments. -/
  spelled : ∀ d : TextDraft, d.Keyed → d.names.Nodup → ∃ text ls, write d.toDraft = .ok text ∧
    text.toList = linesChars ls ∧ (∀ l ∈ ls, l.Shaped) ∧ loud ls = d.lines
  /-- A name that is taken is refused. -/
  taken : ∀ d : TextDraft, d.Keyed → ∀ name, FirstTaken d.names name → write d.toDraft = .error (.keyTaken name)

/-! ## Readers -/

/-- What is asked of a reader that keeps some names and some texts: documents of lines with such names and texts
are read as the effects of their lines, one after the other, and are malformed where a line has none. -/
def ReadsLines (read : Reader) (names texts : List Char → Prop) : Prop :=
  ∀ (ls : List Line) (text : String), (∀ l ∈ ls, l.Within names texts) → text.toList = linesChars ls →
    read text = orMalformed ((ls.foldlM Line.effect .start).map fun p => toPairs p.entries)

/-- What is asked of a reader for blank lines and comments: that one of them is there makes no difference. -/
def PassesOver (read : Reader) : Prop :=
  ∀ (before after : List Line) (l : Line) (text text' : String), (∀ l' ∈ before ++ l :: after, l'.Shaped) →
    l.isQuiet = true → text.toList = linesChars (before ++ l :: after) →
    text'.toList = linesChars (before ++ after) → read text = read text'

namespace PassesOver

variable {read : Reader}

/-- The lines of a document that are neither blank nor comments are read as the document is. -/
theorem read_loud (h : PassesOver read) {ls : List Line} : ∀ (before : List Line) {text : String},
    (∀ l ∈ before ++ ls, l.Shaped) → text.toList = linesChars (before ++ ls) →
    read text = read (String.ofList (linesChars (before ++ loud ls))) := by
  induction ls with
  | nil =>
    intro before text _ htext
    rw [show loud [] = [] from rfl, ← htext, String.ofList_toList]
  | cons l ls ih =>
    intro before text hshaped htext
    cases hquiet : l.isQuiet with
    | true =>
      have hskip : loud (l :: ls) = loud ls := List.filter_cons_of_neg (by simp [hquiet])
      have hsub : (before ++ ls).Sublist (before ++ l :: ls) := (List.sublist_cons_self l ls).append_left before
      have hrest : ∀ l' ∈ before ++ ls, l'.Shaped := fun l' hl' => hshaped l' (hsub.subset hl')
      rw [hskip, h before ls l text _ hshaped hquiet htext String.toList_ofList]
      exact ih before hrest String.toList_ofList
    | false =>
      have hkeep : before ++ loud (l :: ls) = (before ++ [l]) ++ loud ls := by
        rw [show loud (l :: ls) = l :: loud ls from List.filter_cons_of_pos (by simp [hquiet])]
        simp
      have hsplit : before ++ l :: ls = (before ++ [l]) ++ ls := by simp
      rw [hkeep]
      rw [hsplit] at hshaped htext
      exact ih _ hshaped htext

/-- **Documents with the same headers and keys** are read alike. -/
theorem read_eq (h : PassesOver read) {ls ls' : List Line} (hls : ∀ l ∈ ls, l.Shaped)
    (hls' : ∀ l ∈ ls', l.Shaped) (hloud : loud ls = loud ls') {text text' : String}
    (htext : text.toList = linesChars ls) (htext' : text'.toList = linesChars ls') : read text = read text' := by
  rw [h.read_loud [] hls htext, h.read_loud [] hls' htext', List.nil_append,
    List.nil_append, hloud]

end PassesOver

end WordLint.Toml
