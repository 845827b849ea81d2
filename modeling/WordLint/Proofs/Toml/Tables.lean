import Mathlib
import WordLint.Proofs.Toml.Lines

/-!
# Tables inside a table

While the lines of a document open tables inside one table, that table holds the ones that are finished and
the one that is open, in the order of their headers. It has no header of its own, so it is not there before
the first of them.

**The law** (`foldlM_table`): a header, comments and keys with arrays of texts add one table to those that
the lines before have added, when its name and its keys are new.
-/

namespace WordLint.Toml

variable {key : String} {f : Option Item → Option Item}

/-! ## Keys -/

/-- A new key is added at the end. -/
theorem alter_of_notMem {es : Entries} (h : key ∉ es.map Prod.fst) :
    alter key f es = (f none).map fun item => es ++ [(key, item)] := by
  induction es with
  | nil => rfl
  | cons e es ih =>
    obtain ⟨k, item⟩ := e
    have hk : k ≠ key := fun heq => h (by rw [heq]; exact List.mem_cons_self)
    rw [alter, if_neg hk, ih fun hmem => h (List.mem_cons_of_mem _ hmem), Option.map_map]
    rfl

/-- The last key is changed in its place. -/
theorem alter_last {es : Entries} (h : key ∉ es.map Prod.fst) (item : Item) :
    alter key f (es ++ [(key, item)]) = (f (some item)).map fun item => es ++ [(key, item)] := by
  induction es with
  | nil =>
    rw [List.nil_append, alter, if_pos rfl]
    rfl
  | cons e es ih =>
    obtain ⟨k, i⟩ := e
    have hk : k ≠ key := fun heq => h (by rw [heq]; exact List.mem_cons_self)
    rw [List.cons_append, alter, if_neg hk, ih fun hmem => h (List.mem_cons_of_mem _ hmem), Option.map_map]
    rfl

/-! ## One table that holds others -/

/-- The entries of a document that has some tables inside one table. -/
def held (table : String) : Entries → Entries
  | [] => []
  | inner => [(table, .table false inner)]

@[simp] theorem held_concat (table : String) (inner : Entries) (e : String × Item) :
    held table (inner ++ [e]) = [(table, .table false (inner ++ [e]))] := by
  cases inner <;> rfl

/-- The header of a new table. -/
theorem effect_header {table name : List Char} {done : Entries}
    (h : String.ofList name ∉ done.map Prod.fst) (path : List String) :
    (Line.header table name).effect ⟨held (String.ofList table) done, path⟩ =
      some ⟨held (String.ofList table) (done ++ [(String.ofList name, .table true [])]),
        [String.ofList table, String.ofList name]⟩ := by
  rw [held_concat]
  cases done with
  | nil => rfl
  | cons e done =>
    show (do return (⟨← alter (String.ofList table) _ [(String.ofList table, .table false (e :: done))],
      [String.ofList table, String.ofList name]⟩ : Progress)) = _
    rw [alter, if_pos rfl]
    show (do return (⟨← Option.map _ (Option.map _ (openTable (String.ofList name) (e :: done))),
      [String.ofList table, String.ofList name]⟩ : Progress)) = _
    rw [openTable, alter_of_notMem h]
    rfl

/-- A new key of the table that was opened last. -/
theorem effect_entry {table name key : List Char} {done items : Entries}
    (hname : String.ofList name ∉ done.map Prod.fst) (hkey : String.ofList key ∉ items.map Prod.fst)
    (texts : List (List Char)) :
    (Line.entry key texts).effect
        ⟨held (String.ofList table) (done ++ [(String.ofList name, .table true items)]),
          [String.ofList table, String.ofList name]⟩ =
      some ⟨held (String.ofList table) (done ++ [(String.ofList name,
        .table true (items ++ [(String.ofList key, .value (.list (textValues texts)))]))]),
          [String.ofList table, String.ofList name]⟩ := by
  rw [held_concat, held_concat]
  show Option.map _ (alter (String.ofList table) _ [(String.ofList table, .table false _)]) = _
  rw [alter, if_pos rfl]
  show Option.map _ (Option.map _ (Option.map _ (alter (String.ofList name) _ _))) = _
  rw [alter_last hname]
  show Option.map _ (Option.map _ (Option.map _ (Option.map _ (Option.map _
    (setKey (String.ofList key) _ items))))) = _
  rw [setKey, alter_of_notMem hkey]
  rfl

/-! ## The lines of a table -/

/-- Keys with arrays of texts, as what they stand for. -/
def textItems (groups : List (List Char × List (List Char))) : Entries :=
  groups.map fun g => (String.ofList g.1, .value (.list (textValues g.2)))

/-- Keys with arrays of texts, each on a line. -/
def entryLines (groups : List (List Char × List (List Char))) : List Line :=
  groups.map fun g => .entry g.1 g.2

/-- The keys of a table are set one after the other. -/
theorem foldlM_entryLines {table name : List Char} {done : Entries}
    (hname : String.ofList name ∉ done.map Prod.fst) (before groups : List (List Char × List (List Char)))
    (hkeys : ((before ++ groups).map Prod.fst).Nodup) :
    (entryLines groups).foldlM Line.effect
        ⟨held (String.ofList table) (done ++ [(String.ofList name, .table true (textItems before))]),
          [String.ofList table, String.ofList name]⟩ =
      some ⟨held (String.ofList table)
        (done ++ [(String.ofList name, .table true (textItems (before ++ groups)))]),
          [String.ofList table, String.ofList name]⟩ := by
  induction groups generalizing before with
  | nil => rw [List.append_nil]; rfl
  | cons g groups ih =>
    have hnew : String.ofList g.1 ∉ (textItems before).map Prod.fst := by
      intro hmem
      rw [textItems, List.map_map] at hmem
      obtain ⟨g', hg', heq⟩ := List.mem_map.mp hmem
      rw [List.map_append, List.map_cons] at hkeys
      have hdisjoint := (List.nodup_append.mp hkeys).2.2 g'.1 (List.mem_map_of_mem hg') g.1 List.mem_cons_self
      exact hdisjoint (String.ofList_injective heq)
    have hsplit : before ++ g :: groups = (before ++ [g]) ++ groups := by simp
    have hitems : textItems before ++ [(String.ofList g.1, .value (.list (textValues g.2)))] =
        textItems (before ++ [g]) := by simp [textItems]
    rw [entryLines, List.map_cons, List.foldlM_cons, effect_entry hname hnew, hitems, hsplit]
    rw [hsplit] at hkeys
    exact ih _ hkeys

/-- Comments do nothing. -/
theorem foldlM_comments (texts : List (List Char)) (p : Progress) :
    (texts.map Line.comment).foldlM Line.effect p = some p := by
  induction texts with
  | nil => rfl
  | cons text texts ih =>
    rw [List.map_cons, List.foldlM_cons]
    exact ih

/-- The lines of a table: its header, comments, and its keys. -/
def tableLines (table name : List Char) (comments : List (List Char))
    (groups : List (List Char × List (List Char))) : List Line :=
  .header table name :: (comments.map Line.comment ++ entryLines groups)

/-- **The lines of a table add it** to the tables that are there. -/
theorem foldlM_table {table name : List Char} {done : Entries}
    (hname : String.ofList name ∉ done.map Prod.fst) (path : List String) (comments : List (List Char))
    {groups : List (List Char × List (List Char))} (hkeys : (groups.map Prod.fst).Nodup) :
    (tableLines table name comments groups).foldlM Line.effect ⟨held (String.ofList table) done, path⟩ =
      some ⟨held (String.ofList table) (done ++ [(String.ofList name, .table true (textItems groups))]),
        [String.ofList table, String.ofList name]⟩ := by
  rw [tableLines, List.foldlM_cons, effect_header hname]
  show List.foldlM Line.effect _ _ = _
  rw [List.foldlM_append, foldlM_comments]
  exact foldlM_entryLines hname [] groups hkeys

end WordLint.Toml
