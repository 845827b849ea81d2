import Mathlib
import WordLint.Proofs.Toml.Contracts
import WordLint.Toml.Written

/-!
# What the writer makes of a draft

The writer of the library spells a draft as a document of lines: the comments at the top and a blank line, and
for each table its header, its comment line by line, and an array for each key, a blank line between one table
and the next. No line of a comment can be anything else, as each has a mark of its own.

**The law** (`writes_write`): so the writer does what is asked of writers.
-/

namespace WordLint.Toml

/-! ## Comments -/

/-- The lines of a comment, each as what stands behind its mark. -/
def commentLines (text : String) : List (List Char) :=
  (Text.cutAt '\n' text.toList).map fun line => if line.isEmpty then [] else ' ' :: line

theorem notMem_commentLines {text : String} {line : List Char} (h : line ∈ commentLines text) :
    '\n' ∉ line := by
  obtain ⟨piece, hpiece, rfl⟩ := List.mem_map.mp h
  split
  · exact List.not_mem_nil
  · simpa using Text.notMem_of_mem_cutAt hpiece

theorem toList_commentText (text : String) :
    (commentText text).toList = linesChars ((commentLines text).map .comment) := by
  unfold commentText commentLines linesChars
  rw [String.toList_join, List.map_map, List.flatMap_map, List.flatMap_map]
  refine List.flatMap_congr fun line _ => ?_
  cases line with
  | nil => rfl
  | cons c line => simp [Line.chars]

/-- Comments are lines of their own, none of which counts. -/
theorem shaped_comments (text : String) : ∀ l ∈ (commentLines text).map Line.comment, l.Shaped :=
  List.forall_mem_map.mpr fun _ hline => notMem_commentLines hline

theorem loud_comments (texts : List (List Char)) : loud (texts.map Line.comment) = [] := by
  unfold loud
  rw [List.filter_eq_nil_iff]
  intro l hl
  obtain ⟨text, _, rfl⟩ := List.mem_map.mp hl
  exact Bool.false_ne_true

/-! ## Arrays of texts -/

theorem keyText_bare {key : String} (h : IsBareName key) : keyText key = key := by
  have hne : key.isEmpty = false := by
    rw [Bool.eq_false_iff]
    intro hempty
    exact h.1 (by simpa using hempty)
  rw [keyText, if_pos]
  simpa [hne] using h.2

/-- Texts on one line. -/
theorem inlineItems_str (ps : List String) : inlineItems (ps.map .str) = .ok (ps.map basicText) := by
  induction ps with
  | nil => rfl
  | cons p ps ih =>
    rw [List.map_cons, inlineItems, ih]
    rfl

theorem toList_commaSeparated (ps : List String) :
    (commaSeparated (ps.map basicText)).toList = itemsText (ps.map String.toList) := by
  have hquoted : ∀ p, (basicText p).toList = quoted p.toList := fun p => String.toList_ofList
  rw [commaSeparated, String.toList_intercalate, List.map_map]
  induction ps with
  | nil => rfl
  | cons p ps ih =>
    cases ps with
    | nil => simp [itemsText, hquoted]
    | cons q ps =>
      rw [List.map_cons, List.map_cons, List.intercalate_cons_cons, ← List.map_cons, ih]
      simp [itemsText, hquoted]

/-- The line of an array. -/
def arrayLine (a : String × List String) : String :=
  a.1 ++ " = " ++ ("[" ++ commaSeparated (a.2.map basicText) ++ "]") ++ "\n"

theorem lineText_array (a : String × List String) : lineText a.1 (.list (a.2.map .str)) = .ok (arrayLine a) := by
  unfold lineText
  rw [inlineText, inlineItems_str]
  rfl

theorem toList_arrayLine (a : String × List String) :
    (arrayLine a).toList = (Line.entry a.1.toList (a.2.map String.toList)).chars := by
  simp [arrayLine, Line.chars, toList_commaSeparated]

/-- Steps that all succeed, whatever their number. -/
theorem mapIdxM_ok {ε α β γ : Type} {f : Nat → β → Except ε γ} {part : α → β} {g : α → γ}
    {xs : List α} (h : ∀ x ∈ xs, ∀ i, f i (part x) = .ok (g x)) : (xs.map part).mapIdxM f = .ok (xs.map g) := by
  have hgo : ∀ (done : Array γ), List.mapIdxM.go f (xs.map part) done = .ok (done.toList ++ xs.map g) := by
    induction xs with
    | nil => exact fun done => by rw [List.map_nil, List.map_nil, List.append_nil]; rfl
    | cons x xs ih =>
      intro done
      obtain ⟨hx, hxs⟩ := List.forall_mem_cons.mp h
      rw [List.map_cons, List.mapIdxM.go, hx]
      show List.mapIdxM.go f (xs.map part) (done.push (g x)) = _
      rw [ih hxs]
      simp
  exact hgo #[]

/-- An array of texts is written on one line. -/
theorem partOf_array (path : String) {a : String × List String} (ha : IsBareName a.1) (below : Bool) :
    (partOf path (.str a.1) (.list (a.2.map .str))).isBlock = false ∧
      (partOf path (.str a.1) (.list (a.2.map .str))).text below = .ok (arrayLine a) := by
  have hlist : isTableList (.list (a.2.map .str)) = false := by
    cases hps : a.2 <;> rfl
  have hkey : entryKey (.str a.1) = .ok a.1 := by
    rw [entryKey, keyText_bare ha]
  rw [partOf]
  refine ⟨hlist, ?_⟩
  dsimp only
  rw [hlist, hkey]
  exact lineText_array a

/-- Arrays are written one below the other. -/
theorem joinParts_arrays (path : String) (below : Bool) {arrays : List (String × List String)}
    (h : ∀ a ∈ arrays, IsBareName a.1) :
    joinParts below (partsOf path (arrays.map fun a => (.str a.1, .list (a.2.map .str)))) =
      .ok (String.join (arrays.map arrayLine)) := by
  have hparts (arrays : List (String × List String)) :
      partsOf path (arrays.map fun a => (.str a.1, .list (a.2.map .str))) =
        arrays.map fun a => partOf path (.str a.1) (.list (a.2.map .str)) := by
    induction arrays with
    | nil => rfl
    | cons a arrays ih => rw [List.map_cons, partsOf, ih, List.map_cons]
  have hlast : tablesLast (arrays.map fun a => (false, arrayLine a)) = arrays.map arrayLine := by
    simp [tablesLast, List.filter_map, Function.comp_def]
  unfold joinParts
  rw [hparts, mapIdxM_ok (g := fun a => (false, arrayLine a)), ← hlast]
  · rfl
  · intro a ha i
    obtain ⟨hblock, htext⟩ := partOf_array path (h a ha) (below || 0 < i)
    rw [hblock, htext]
    rfl

/-- Arrays all stand for something. -/
theorem filledEntries_arrays (arrays : List (String × List String)) :
    filledEntries (arrays.map fun a => (.str a.1, .list (a.2.map .str))) =
      .ok (arrays.map fun a => (.str a.1, .list (a.2.map .str))) := by
  unfold filledEntries
  induction arrays with
  | nil => rfl
  | cons a arrays ih =>
    rw [List.map_cons, List.mapM_cons, ih]
    rfl

/-! ## Tables -/

/-- A table as it is spelled: its header, its comment, and its keys. -/
def TextTable.spelling (parent : String) (t : TextTable) : List Line :=
  tableLines parent.toList t.name.toList (commentLines t.comment) t.groups

theorem TextTable.shaped_spelling {parent : String} (hparent : IsBareName parent) {t : TextTable} (h : t.Keyed) :
    ∀ l ∈ t.spelling parent, l.Shaped := by
  have hentries : ∀ l ∈ entryLines t.groups, l.Shaped :=
    List.forall_mem_map.mpr (List.forall_mem_map.mpr fun a ha => h.bare a ha)
  exact List.forall_mem_cons.mpr ⟨hparent, List.forall_mem_append.mpr ⟨shaped_comments _, hentries⟩⟩

theorem TextTable.loud_spelling (parent : String) (t : TextTable) : loud (t.spelling parent) = t.lines parent := by
  have hentries : loud (entryLines t.groups) = entryLines t.groups := by
    unfold loud
    rw [List.filter_eq_self]
    intro l hl
    obtain ⟨g, _, rfl⟩ := List.mem_map.mp hl
    rfl
  unfold spelling tableLines
  rw [← List.singleton_append, loud_append, loud_append, loud_comments, List.nil_append, hentries]
  rfl

/-- The table of a draft is written. -/
theorem draftTableText_spelling (parent : String) {t : TextTable} (h : t.Keyed) :
    ∃ text, draftTableText parent t.toDraft = .ok text ∧ text.toList = linesChars (t.spelling parent) := by
  refine ⟨"[" ++ (parent ++ "." ++ keyText t.name) ++ "]\n" ++ commentText t.comment ++
    String.join (t.arrays.map arrayLine), ?_, ?_⟩
  · have hfilled : filledEntries t.toDraft.entries = .ok t.toDraft.entries := filledEntries_arrays t.arrays
    have hparts : joinParts true (partsOf (parent ++ "." ++ keyText t.toDraft.name) t.toDraft.entries) =
        .ok (String.join (t.arrays.map arrayLine)) := joinParts_arrays _ _ h.bare
    unfold draftTableText
    rw [hfilled]
    show (do return _ ++ (← joinParts true (partsOf _ t.toDraft.entries))) = _
    rw [hparts]
    rfl
  · have hheader : (Line.header parent.toList t.name.toList).chars =
        ("[" ++ (parent ++ "." ++ keyText t.name) ++ "]\n").toList := by
      simp [Line.chars, toList_keyText]
    have harrays : (String.join (t.arrays.map arrayLine)).toList = linesChars (entryLines t.groups) := by
      unfold linesChars entryLines TextTable.groups
      rw [String.toList_join, List.flatMap_map, List.flatMap_map, List.flatMap_map]
      exact List.flatMap_congr fun a _ => toList_arrayLine a
    rw [TextTable.spelling, tableLines, linesChars, List.flatMap_cons, List.flatMap_append, hheader,
      String.toList_append, String.toList_append, toList_commentText, harrays, List.append_assoc]
    rfl

/-- Tables with new names are written one after the other. -/
theorem draftTableTexts_spelling (parent : String) {tables : List TextTable} (before : List String)
    (h : ∀ t ∈ tables, t.Keyed) (hnames : (before ++ tables.map (·.name)).Nodup) :
    ∃ texts, draftTableTexts parent before (tables.map TextTable.toDraft) = .ok texts ∧
      texts.map String.toList = tables.map fun t => linesChars (t.spelling parent) := by
  induction tables generalizing before with
  | nil => exact ⟨[], rfl, rfl⟩
  | cons t tables ih =>
    have hdistinct : (t.name :: (before ++ tables.map (·.name))).Nodup := List.nodup_middle.mp hnames
    have hnew : t.name ∉ before := mt (List.mem_append_left _) (List.nodup_cons.mp hdistinct).1
    obtain ⟨ht, htables⟩ := List.forall_mem_cons.mp h
    obtain ⟨text, htext, hlines⟩ := draftTableText_spelling parent ht
    obtain ⟨texts, htexts, hmore⟩ := ih (t.name :: before) htables hdistinct
    refine ⟨text :: texts, ?_, ?_⟩
    · rw [List.map_cons, draftTableTexts, htext]
      show (if before.contains t.name = true then .error (.keyTaken t.name)
        else do return text :: (← draftTableTexts parent (t.name :: before) (tables.map TextTable.toDraft))) = _
      rw [if_neg (by simpa using hnew), htexts]
      rfl
    · rw [List.map_cons, List.map_cons, hlines, hmore]

/-- The first table whose name is taken is refused. -/
theorem draftTableTexts_taken (parent : String) {tables : List TextTable} {t : TextTable} (after : List TextTable)
    (before : List String) (htables : ∀ t' ∈ tables, t'.Keyed) (ht : t.Keyed)
    (hnames : (before ++ tables.map (·.name)).Nodup) (htaken : t.name ∈ before ++ tables.map (·.name)) :
    draftTableTexts parent before ((tables ++ t :: after).map TextTable.toDraft) = .error (.keyTaken t.name) := by
  induction tables generalizing before with
  | nil =>
    rw [List.map_nil, List.append_nil] at htaken
    obtain ⟨text, htext, _⟩ := draftTableText_spelling parent ht
    rw [List.nil_append, List.map_cons, draftTableTexts, htext]
    show (if before.contains t.name = true then Except.error (WriteProblem.keyTaken t.name) else _) = _
    rw [if_pos (List.contains_iff_mem.mpr htaken)]
  | cons t' tables ih =>
    obtain ⟨ht', hmore⟩ := List.forall_mem_cons.mp htables
    have hdistinct : (t'.name :: (before ++ tables.map (·.name))).Nodup := List.nodup_middle.mp hnames
    have hnew : t'.name ∉ before := mt (List.mem_append_left _) (List.nodup_cons.mp hdistinct).1
    obtain ⟨text, htext, _⟩ := draftTableText_spelling parent ht'
    have hrest := ih (t'.name :: before) hmore hdistinct (List.perm_middle.mem_iff.mp htaken)
    rw [List.cons_append, List.map_cons, draftTableTexts, htext]
    show (if before.contains t'.name = true then .error (.keyTaken t'.name)
      else do return text :: (← draftTableTexts parent (t'.name :: before)
        ((tables ++ t :: after).map TextTable.toDraft))) = _
    rw [if_neg (by simpa using hnew), hrest]
    rfl

/-! ## Documents -/

/-- The comments at the top of a document, and the blank line below them. -/
def topLines (comments : List String) : List Line :=
  comments.flatMap (fun text => (commentLines text).map .comment) ++ [.blank]

/-- A document as it is spelled. -/
def TextDraft.spelling (d : TextDraft) : List Line :=
  topLines d.comments ++ List.intercalate [.blank] (d.tables.map (·.spelling d.parent))

theorem toList_topText (comments : List String) :
    (String.join (comments.map commentText) ++ "\n").toList = linesChars (topLines comments) := by
  unfold topLines linesChars
  rw [String.toList_append, String.toList_join, List.flatMap_append, List.flatMap_map, List.flatMap_assoc]
  exact congrArg (· ++ ['\n']) (List.flatMap_congr fun text _ => toList_commentText text)

/-- Blank lines stand between tables. -/
theorem linesChars_intercalate (tables : List (List Line)) :
    linesChars (List.intercalate [.blank] tables) = List.intercalate ['\n'] (tables.map linesChars) := by
  induction tables with
  | nil => rfl
  | cons ls tables ih =>
    cases tables with
    | nil => simp
    | cons ls' tables =>
      rw [List.intercalate_cons_cons, List.map_cons, List.map_cons, List.intercalate_cons_cons, ← List.map_cons,
        ← ih, linesChars, List.flatMap_append, List.flatMap_append]
      rfl

/-- They do not count. -/
theorem loud_intercalate (tables : List (List Line)) :
    loud (List.intercalate [.blank] tables) = tables.flatMap loud := by
  induction tables with
  | nil => rfl
  | cons ls tables ih =>
    cases tables with
    | nil => rw [List.intercalate_singleton, List.flatMap_singleton]
    | cons ls' tables =>
      rw [List.intercalate_cons_cons, loud_append, loud_append, ih, List.flatMap_cons]
      exact congrArg (· ++ _) (List.append_nil (loud ls))

theorem shaped_intercalate {tables : List (List Line)} (h : ∀ ls ∈ tables, ∀ l ∈ ls, l.Shaped) :
    ∀ l ∈ List.intercalate [.blank] tables, l.Shaped := by
  induction tables with
  | nil => exact fun l hl => nomatch hl
  | cons ls tables ih =>
    obtain ⟨hls, hrest⟩ := List.forall_mem_cons.mp h
    cases tables with
    | nil =>
      rw [List.intercalate_singleton]
      exact hls
    | cons ls' tables =>
      rw [List.intercalate_cons_cons]
      exact List.forall_mem_append.mpr
        ⟨List.forall_mem_append.mpr ⟨hls, List.forall_mem_singleton.mpr trivial⟩, ih hrest⟩

namespace TextDraft

theorem shaped_spelling {d : TextDraft} (h : d.Keyed) : ∀ l ∈ d.spelling, l.Shaped := by
  refine List.forall_mem_append.mpr ⟨List.forall_mem_append.mpr ⟨?_, List.forall_mem_singleton.mpr trivial⟩,
    shaped_intercalate (List.forall_mem_map.mpr fun t ht => t.shaped_spelling h.parent (h.tables t ht))⟩
  intro l hl
  obtain ⟨text, _, hl⟩ := List.mem_flatMap.mp hl
  exact shaped_comments text l hl

theorem loud_spelling (d : TextDraft) : loud d.spelling = d.lines := by
  have htop : loud (topLines d.comments) = [] := by
    unfold topLines
    rw [loud_append]
    induction d.comments with
    | nil => rfl
    | cons text comments ih => rw [List.flatMap_cons, loud_append, loud_comments, List.nil_append, ih]
  unfold spelling lines
  rw [loud_append, htop, List.nil_append, loud_intercalate, List.flatMap_map]
  exact List.flatMap_congr fun t _ => t.loud_spelling d.parent

/-- A document of tables with new names is written. -/
theorem write_spelling {d : TextDraft} (h : d.Keyed) (hnames : d.names.Nodup) :
    ∃ text, write d.toDraft = .ok text ∧ text.toList = linesChars d.spelling := by
  obtain ⟨texts, htexts, hlines⟩ := draftTableTexts_spelling d.parent [] h.tables hnames
  refine ⟨String.join (d.comments.map commentText) ++ "\n" ++ String.intercalate "\n" texts, ?_, ?_⟩
  · unfold write
    rw [show d.toDraft.parent = d.parent from rfl, keyText_bare h.parent,
      show d.toDraft.tables = d.tables.map TextTable.toDraft from rfl, htexts]
    rfl
  · have htables : (String.intercalate "\n" texts).toList =
        linesChars (List.intercalate [.blank] (d.tables.map (·.spelling d.parent))) := by
      rw [String.toList_intercalate, hlines, linesChars_intercalate, List.map_map]
      rfl
    rw [String.toList_append, toList_topText, htables, spelling, linesChars, linesChars, linesChars,
      List.flatMap_append]

end TextDraft

/-- **The writer of the library** does what is asked of writers. -/
theorem writes_write : Writes write where
  spelled d h hnames := by
    obtain ⟨text, htext, hlines⟩ := d.write_spelling h hnames
    exact ⟨text, d.spelling, htext, hlines, TextDraft.shaped_spelling h, d.loud_spelling⟩
  taken d h name hname := by
    obtain ⟨before, after, hsplit, hbefore, htaken⟩ := hname
    obtain ⟨tables, rest, htables, rfl, hrest⟩ := List.map_eq_append_iff.mp hsplit
    obtain ⟨t, rest, rfl, rfl, _⟩ := List.map_eq_cons_iff.mp hrest
    have hkeyed := h.tables
    rw [htables] at hkeyed
    obtain ⟨hfront, hback⟩ := List.forall_mem_append.mp hkeyed
    have hrefused := draftTableTexts_taken d.parent rest [] hfront (hback t List.mem_cons_self) hbefore htaken
    unfold write
    rw [show d.toDraft.parent = d.parent from rfl, keyText_bare h.parent,
      show d.toDraft.tables = d.tables.map TextTable.toDraft from rfl, htables, hrefused]
    rfl

end WordLint.Toml
