import WordLint.Automation.Versions
import WordLint.Proofs.Text.Characters
import WordLint.Proofs.Toml.Lines
import WordLint.Proofs.Toml.Passing

/-!
# Documents that list classifiers

The classifiers of a project are the items of a list, which its document has in a table (`listed?`). Any other
document has no classifiers.

**The law** (`documentOfBy_listing`): the file that is written for some classifiers (`listing`) holds the document that
lists them, if they are read back from an array of texts.
-/

namespace WordLint.Automation

/-! ## Lists in documents -/

/-- The list that a value is. -/
def list? : Value → Option (List Value)
  | .list items => some items
  | _ => none

/-- The list of classifiers that a document has in its table of the project. -/
def listed? (document : List (Value × Value)) : Option (List Value) :=
  match Value.lookup? projectKey document with
  | some (.dict project) => (Value.lookup? classifiersKey project).bind list?
  | _ => none

/-- A key of a finished table stands for the finished item. -/
theorem lookup?_toPairs (key : String) (entries : Toml.Entries) :
    Value.lookup? key (Toml.toPairs entries) = (entries.lookup key).map Toml.Item.toValue := by
  induction entries with
  | nil => rfl
  | cons entry rest ih =>
    obtain ⟨k, item⟩ := entry
    rw [Toml.toPairs, Value.lookup?, List.lookup_cons, ih, Value.sameKey, BEq.comm]
    cases key == k <;> rfl

theorem toDicts_concat (done : List Toml.Entries) (last : Toml.Entries) :
    Toml.toDicts (done ++ [last]) = Toml.toDicts done ++ [.dict (Toml.toPairs last)] := by
  induction done with
  | nil => rfl
  | cons entries done ih => rw [List.cons_append, Toml.toDicts, ih, Toml.toDicts, List.cons_append]

theorem ofValue?_items (v : Value) : (ofValue? v).map (·.items) = list? v := by
  cases v <;> rfl

theorem ofItem?_items (item : Toml.Item) : (ofItem? item).map (·.items) = list? item.toValue := by
  cases item with
  | value v => exact ofValue?_items v
  | table named entries => rfl
  | tables done last => exact congrArg some (toDicts_concat done last)

/-- **The classifiers of a document** are the items that it lists, whatever it is made of. -/
theorem classifiers?_items (entries : Toml.Entries) :
    (classifiers? entries).map (·.items) = listed? (Toml.toPairs entries) := by
  unfold classifiers? listed?
  rw [lookup?_toPairs]
  cases entries.lookup projectKey with
  | none => rfl
  | some item =>
    cases item with
    | value v =>
      cases v with
      | dict es =>
        show ((Value.lookup? classifiersKey es).bind ofValue?).map (·.items) =
          (Value.lookup? classifiersKey es).bind list?
        rw [Option.map_bind]
        exact congrArg _ (funext ofValue?_items)
      | _ => rfl
    | table named inner =>
      show ((inner.lookup classifiersKey).bind ofItem?).map (·.items) =
        (Value.lookup? classifiersKey (Toml.toPairs inner)).bind list?
      rw [lookup?_toPairs, Option.map_bind, Option.bind_map]
      exact congrArg _ (funext ofItem?_items)
    | tables done last => rfl

/-! ## Files that are lists -/

/-- The line that lists some classifiers. -/
def listingLine (classifiers : List String) : Toml.Line :=
  .entry classifiersKey.toList (classifiers.map String.toList)

/-- The text of the file that lists some classifiers, and nothing else. -/
def listingText (classifiers : List String) : List Char :=
  '[' :: (projectKey.toList ++ ']' :: '\n' :: (listingLine classifiers).chars)

/-- The file that lists some classifiers, in bytes of ASCII. -/
def listing (classifiers : List String) : List Nat :=
  (listingText classifiers).map Char.toNat

/-- The document that lists some classifiers. -/
def listingEntries (classifiers : List String) : Toml.Entries :=
  [(projectKey, .table true [(classifiersKey, .value (.list (classifiers.map .str)))])]

variable {classifiers : List String}

theorem listed?_listingEntries (classifiers : List String) :
    listed? (Toml.toPairs (listingEntries classifiers)) = some (classifiers.map .str) :=
  rfl

theorem fine_listingLine (hread : ∀ c ∈ classifiers, Toml.ReadsBack c.toList) : (listingLine classifiers).Fine := by
  have hkey : classifiersKey.toList = ['c', 'l', 'a', 's', 's', 'i', 'f', 'i', 'e', 'r', 's'] := by decide +kernel
  refine ⟨by rw [hkey]; decide, List.all_eq_true.mp (by rw [hkey]; decide), fun p hp => ?_⟩
  obtain ⟨c, hc, rfl⟩ := List.mem_map.mp hp
  exact hread c hc

theorem return_notMem_listingText (hread : ∀ c ∈ classifiers, Toml.ReadsBack c.toList) :
    '\r' ∉ listingText classifiers := by
  have hkey : '\r' ∉ projectKey.toList := by decide +kernel
  have hline : '\r' ∉ (listingLine classifiers).chars :=
    Toml.return_notMem_chars (fine_listingLine hread).shaped rfl
  simp [listingText, hkey, hline]

theorem toList_projectKey : projectKey.toList = ['p', 'r', 'o', 'j', 'e', 'c', 't'] := by decide +kernel

/-- The header of the table of the project. -/
theorem readLines_projectHeader (fuel : Nat) (t : List Char) :
    Toml.readLines (fuel + 1) .start ('[' :: (projectKey.toList ++ ']' :: '\n' :: t)) =
      Toml.readLines fuel ⟨[(projectKey, .table true [])], [projectKey]⟩ t := by
  have hheader : Toml.header? .start (projectKey.toList ++ ']' :: '\n' :: t) =
      some (⟨[(projectKey, .table true [])], [projectKey]⟩, t) := by
    rw [toList_projectKey]
    rfl
  rw [toList_projectKey] at hheader ⊢
  rw [List.cons_append, Toml.readLines_bracket (by decide), ← List.cons_append, hheader]
  rfl

theorem documentTables_listing (hread : ∀ c ∈ classifiers, Toml.ReadsBack c.toList) :
    Toml.documentTables (String.ofList (listingText classifiers)) = .ok (listingEntries classifiers) := by
  have hreturns := Toml.blankReturns_append (return_notMem_listingText hread) []
  have hvalues : Toml.textValues (classifiers.map String.toList) = classifiers.map .str := by
    simp [Toml.textValues]
  rw [List.append_nil, Toml.blankReturns, List.append_nil] at hreturns
  unfold Toml.documentTables
  dsimp only
  rw [String.toList_ofList, hreturns]
  obtain ⟨fuel, hfuel⟩ : ∃ fuel, (listingText classifiers).length = fuel + 2 :=
    ⟨(listingText classifiers).length - 2, by simp only [listingText, List.length_cons, List.length_append]; omega⟩
  have hentry := Toml.readLines_entry (fine_listingLine hread) (fuel + 1)
    ⟨[(projectKey, .table true [])], [projectKey]⟩ []
  rw [List.append_nil] at hentry
  rw [hfuel, listingText, readLines_projectHeader, listingLine, hentry]
  simp [Toml.Line.effect, Toml.within, Toml.setKey, Toml.alter, Toml.readLines, Toml.skipLines, hvalues, listingEntries,
    Except.map, Except.bind]

/-- The first pass goes over a document that lists classifiers. -/
theorem passed_listingText (hread : ∀ c ∈ classifiers, Toml.ReadsBack c.toList) :
    ∃ p, Toml.Pass.start.run (String.ofList (listingText classifiers)).toList = .ok p := by
  obtain ⟨passed, hline⟩ : ∃ passed, (Toml.Pass.atLine ('\n' :: ']' :: projectKey.toList.reverse ++ ['['])).run
      (Toml.linesChars [listingLine classifiers]) = .ok (Toml.Pass.atLine passed) :=
    Toml.Pass.run_lines (List.forall_mem_singleton.mpr (fine_listingLine hread).shaped) _
  have hbare : ∀ c ∈ projectKey.toList, Toml.isBare c := List.all_eq_true.mp (by rw [toList_projectKey]; decide)
  refine ⟨_, Eq.trans ?_ hline⟩
  show (Toml.Pass.atLine []).run _ = _
  rw [String.toList_ofList, listingText, toList_projectKey, List.cons_append,
    Toml.Pass.run_of_step (Toml.Pass.step_openHeader (by decide) _), ← List.cons_append, ← toList_projectKey,
    Toml.Pass.run_bare hbare, Toml.Pass.run_closeHeader]
  simp [Toml.linesChars]

/-- **A file that lists classifiers** holds the document that lists them, if they are read back. -/
theorem documentOfBy_listing (hascii : ∀ c ∈ listingText classifiers, c.toNat < 0x80)
    (hread : ∀ c ∈ classifiers, Toml.ReadsBack c.toList) :
    documentOfBy Toml.readTables (some (listing classifiers)) = .ok (listingEntries classifiers) := by
  obtain ⟨p, hpass⟩ := passed_listingText hread
  have hdocument : Toml.readTables (String.ofList (listingText classifiers)) = .ok (listingEntries classifiers) := by
    rw [Toml.readTables_of_run hpass, documentTables_listing hread]
  simp only [documentOfBy, listing, Text.decode_ascii hascii, Except.mapError, bind, Except.bind,
    Text.unifyBreaks_of_notMem (return_notMem_listingText hread), hdocument]
  rfl

end WordLint.Automation
