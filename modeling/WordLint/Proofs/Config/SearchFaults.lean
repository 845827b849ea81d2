import WordLint.Proofs.Config.Faults
import WordLint.Proofs.Config.Nearest

/-!
# Where the search for a configuration fails

The search reads files of projects on its way up, and one that is no document ends it. Which of them it reads
depends on all that is below: none above a directory that holds a configuration, and none beside a configuration
file of its own. A directory where such a file would be read and is no document is `Spoilt`; the search comes to
a directory (`Reached`) when those below hold no configuration and are not spoilt.

**The law** (`findBy_fails_iff`): with a reader that does not break down, the search ends in a fault of the
configuration exactly when a spoilt directory is on the chain, and no directory below it holds a configuration.
What the search does not come to has no part in how it ends (`AlikeReached`). It is put together from what one
directory does (`inDirectoryBy_of_spoilt`, `inDirectoryBy_of_not_spoilt`) along the chain
(`firstInBy_eq_error_iff`).

That is so for a start that the system can be asked for. For any other one the search ends in an error that is
not taken for a fault of the configuration, spoilt directories or not (`unspeakable_start_escapes`). The names that
a system refuses for their length are not among those: a tree has none. Nor does the law say what is above the root
of the tree, which a start may lead to: from there nothing is found (`resolve?`).
-/

namespace WordLint

/-! ## Files in directories -/

/-- All that a file lies in is no file. -/
def FileTree.IsTree (t : FileTree) : Prop :=
  ∀ f ∈ t.files, ∀ d, d <+: f.1.dropLast → t.isFile d = false

namespace Config

/-- A fault of the configuration, and no error that goes on as it is. -/
def Fault.OfConfiguration (f : Fault) : Prop :=
  ∀ b, f ≠ .breakdown b

variable (read : Toml.Reader)

/-- The reader that takes what the other one breaks down over for text that is no document. -/
def withoutBreakdowns : Toml.Reader := fun text =>
  match read text with
  | .error (.breakdown _) => .error .malformed
  | result => result

theorem withoutBreakdowns_not_breaksDown (text : String) : ¬BreaksDown (withoutBreakdowns read) text := by
  rintro ⟨b, h⟩
  unfold withoutBreakdowns at h
  split at h
  · cases h
  · rename_i hother
    exact hother b h

theorem withoutBreakdowns_eq_ok {text : String} {entries : List (Value × Value)} (h : read text = .ok entries) :
    withoutBreakdowns read text = .ok entries := by
  unfold withoutBreakdowns
  rw [h]

/-- The bytes of a file are a document: they are a text in UTF-8, and the reader takes it. -/
def IsDocument (bytes : List Nat) : Prop :=
  ∃ cs entries, Text.decode bytes = .ok cs ∧ read (String.ofList (Text.unifyBreaks cs)) = .ok entries

variable (t : FileTree)

/-! ## One directory -/

/-- The file of a project in a directory counts there, and is no document. -/
structure Spoilt (directory : FilePath) : Prop where
  own : t.isFile (ownFile directory) = false
  project : t.isFile (projectFile directory) = true
  invalid : ¬∃ text entries, t.readText (projectFile directory) = .ok text ∧ read text = .ok entries

/-- A directory that the search goes on from. -/
structure Passed (directory : FilePath) : Prop where
  sound : ¬Spoilt read t directory
  empty : ∀ file, ¬Holds read t (fun _ => True) directory file

variable {read t}
variable {directory d : FilePath} {rest directories : List FilePath} {fault : Fault}

/-- A document is had from a file that can be read, and whose text the reader takes. -/
theorem exists_documentBy_iff {path : FilePath} :
    (∃ document, documentBy read t path = .ok document) ↔
      ∃ text entries, t.readText path = .ok text ∧ read text = .ok entries := by
  constructor
  · rintro ⟨document, h⟩
    unfold documentBy at h
    split at h
    · cases h
    · cases h
    · rename_i text htext
      split at h
      · rename_i entries hentries
        exact ⟨text, entries, htext, hentries⟩
      · cases h
      · cases h
  · rintro ⟨text, entries, htext, hentries⟩
    exact ⟨_, documentBy_eq_ok read htext hentries⟩

/-- A file of a project that cannot even be read is no document. -/
theorem spoilt_of_readText {e : FileError} (hown : t.isFile (ownFile d) = false)
    (hproject : t.isFile (projectFile d) = true) (h : t.readText (projectFile d) = .error e) : Spoilt read t d := by
  refine ⟨hown, hproject, ?_⟩
  rintro ⟨text, entries, htext, -⟩
  rw [h] at htext
  cases htext

/-- In a spoilt directory the search ends, with the fault of the file of a project. -/
theorem inDirectoryBy_of_spoilt (h : Spoilt read t directory) :
    ∃ fault, documentBy read t (projectFile directory) = .error fault ∧
      inDirectoryBy read t directory = .error fault := by
  cases hdocument : documentBy read t (projectFile directory) with
  | ok document => exact absurd (exists_documentBy_iff.mp ⟨document, hdocument⟩) h.invalid
  | error fault =>
    refine ⟨fault, rfl, ?_⟩
    unfold inDirectoryBy
    simp [h.own, h.project, hdocument, bind, Except.bind]

/-- In any other directory, what it holds is found. -/
theorem inDirectoryBy_of_not_spoilt (h : ¬Spoilt read t directory) :
    ∃ found, inDirectoryBy read t directory = .ok found ∧
      ∀ file, found = some file ↔ Holds read t (fun _ => True) directory file := by
  cases hown : t.isFile (ownFile directory) with
  | true =>
    refine ⟨some (ownFile directory), ?_, ?_⟩
    · unfold inDirectoryBy
      simp [hown, pure, Except.pure]
    · unfold Holds
      simp [hown, eq_comm]
  | false =>
    refine inDirectoryBy_holds read t fun hproject => ?_
    rw [exists_documentBy_iff]
    by_contra hinvalid
    exact h ⟨hown, hproject, hinvalid⟩

theorem inDirectoryBy_eq_none_iff : inDirectoryBy read t directory = .ok none ↔ Passed read t directory := by
  by_cases hspoilt : Spoilt read t directory
  · obtain ⟨fault, _, hfault⟩ := inDirectoryBy_of_spoilt hspoilt
    rw [hfault]
    exact iff_of_false nofun fun h => h.sound hspoilt
  · obtain ⟨found, hfound, hholds⟩ := inDirectoryBy_of_not_spoilt hspoilt
    rw [hfound]
    constructor
    · rintro ⟨⟩
      exact ⟨hspoilt, fun file hfile => nomatch (hholds file).mpr hfile⟩
    · intro h
      cases found with
      | none => rfl
      | some file => exact absurd ((hholds file).mp rfl) (h.empty file)

/-! ## Along the chain -/

variable (read t) in
/-- The search comes to a directory: all directories before it are passed. -/
def Reached (directories : List FilePath) (directory : FilePath) : Prop :=
  ∃ below above, directories = below ++ directory :: above ∧ ∀ b ∈ below, Passed read t b

theorem reached_cons_iff :
    Reached read t (directory :: rest) d ↔ d = directory ∨ Passed read t directory ∧ Reached read t rest d := by
  constructor
  · rintro ⟨below, above, hsplit, hbelow⟩
    cases below with
    | nil =>
      cases hsplit
      exact .inl rfl
    | cons b below =>
      cases hsplit
      obtain ⟨hb, hbelow⟩ := List.forall_mem_cons.mp hbelow
      exact .inr ⟨hb, below, above, rfl, hbelow⟩
  · rintro (rfl | ⟨hpassed, below, above, rfl, hbelow⟩)
    · exact ⟨[], rest, rfl, fun _ hb => absurd hb List.not_mem_nil⟩
    · exact ⟨directory :: below, above, rfl, List.forall_mem_cons.mpr ⟨hpassed, hbelow⟩⟩

theorem Reached.mem (h : Reached read t directories d) : d ∈ directories := by
  obtain ⟨below, above, rfl, _⟩ := h
  exact List.mem_append_right below List.mem_cons_self

/-- **Where the search fails**: in the spoilt directory that it comes to, with the fault of the file there. -/
theorem firstInBy_eq_error_iff : firstInBy read t directories = .error fault ↔
    ∃ d, Reached read t directories d ∧ Spoilt read t d ∧
      documentBy read t (projectFile d) = .error fault := by
  induction directories with
  | nil =>
    refine iff_of_false (by rintro ⟨⟩) ?_
    rintro ⟨d, hreached, _⟩
    exact absurd hreached.mem List.not_mem_nil
  | cons directory rest ih =>
    simp only [reached_cons_iff]
    unfold firstInBy
    by_cases hspoilt : Spoilt read t directory
    · obtain ⟨f, hdocument, hstop⟩ := inDirectoryBy_of_spoilt hspoilt
      rw [hstop]
      constructor
      · rintro ⟨⟩
        exact ⟨directory, .inl rfl, hspoilt, hdocument⟩
      · rintro ⟨d, rfl | ⟨hpassed, _⟩, _, hfault⟩
        · rw [hdocument] at hfault
          cases hfault
          rfl
        · exact absurd hspoilt hpassed.sound
    · obtain ⟨found, hfound, hholds⟩ := inDirectoryBy_of_not_spoilt hspoilt
      rw [hfound]
      cases found with
      | some file =>
        refine iff_of_false (by rintro ⟨⟩) ?_
        rintro ⟨d, rfl | ⟨hpassed, _⟩, hd, _⟩
        · exact hspoilt hd
        · exact hpassed.empty file ((hholds file).mp rfl)
      | none =>
        have hpassed := inDirectoryBy_eq_none_iff.mp hfound
        refine Iff.trans ih (exists_congr fun d => ?_)
        constructor
        · rintro ⟨hreached, hd⟩
          exact ⟨.inr ⟨hpassed, hreached⟩, hd⟩
        · rintro ⟨rfl | ⟨_, hreached⟩, hd⟩
          · exact absurd hd.1 hspoilt
          · exact ⟨hreached, hd⟩

/-- The search comes to a spoilt directory when no directory below one holds a configuration: the first of those
below that is spoilt itself is come to in its place. -/
theorem exists_reached_spoilt_iff : (∃ d, Reached read t directories d ∧ Spoilt read t d) ↔
    ∃ below d above, directories = below ++ d :: above ∧ Spoilt read t d ∧
      ∀ b ∈ below, ∀ file, ¬Holds read t (fun _ => True) b file := by
  constructor
  · rintro ⟨d, ⟨below, above, hsplit, hbelow⟩, hd⟩
    exact ⟨below, d, above, hsplit, hd, fun b hb => (hbelow b hb).empty⟩
  · rintro ⟨below, d, above, rfl, hd, hbelow⟩
    induction below with
    | nil => exact ⟨d, reached_cons_iff.mpr (.inl rfl), hd⟩
    | cons b below ih =>
      obtain ⟨hb, hbelow⟩ := List.forall_mem_cons.mp hbelow
      by_cases hspoilt : Spoilt read t b
      · exact ⟨b, reached_cons_iff.mpr (.inl rfl), hspoilt⟩
      · obtain ⟨d', hreached, hd'⟩ := ih hbelow
        exact ⟨d', reached_cons_iff.mpr (.inr ⟨⟨hspoilt, hb⟩, hreached⟩), hd'⟩

/-! ## Paths that can be asked for -/

theorem resolve_subset {start path : FilePath} (h : FileTree.resolve? start = some path) : path ⊆ start := by
  have hfold : ∀ (names done : FilePath),
      names.foldlM (fun done name => if name = ".." then FileTree.parent? done else some (done ++ [name])) done =
        some path → path ⊆ done ++ names := by
    intro names
    induction names with
    | nil =>
      rintro done ⟨⟩
      exact List.subset_append_left _ _
    | cons name names ih =>
      intro done h
      rw [List.foldlM_cons] at h
      by_cases hname : name = ".."
      · rw [if_pos hname] at h
        unfold FileTree.parent? at h
        split at h
        · cases h
        · refine List.Subset.trans (ih _ h) (List.append_subset.mpr ⟨?_, ?_⟩)
          · exact List.subset_append_of_subset_left _ (List.dropLast_subset _)
          · exact List.subset_append_of_subset_right _ (List.subset_cons_self _ _)
      · rw [if_neg hname] at h
        have hsubset := ih _ h
        rwa [List.append_assoc] at hsubset
  exact hfold start [] h

/-- What is on the chain of a start that can be asked for can be asked for too, with the file of a project. -/
theorem unspeakable_projectFile {start : FilePath} (hstart : start.unspeakable = false)
    (hd : d ∈ chain t start) : (projectFile d).unspeakable = false := by
  have hsubset : d ⊆ start := by
    unfold chain at hd
    split at hd
    · rename_i path hpath
      refine List.Subset.trans (List.Subset.trans (mem_upwards_iff.mp hd).subset ?_) (resolve_subset hpath)
      split
      · exact List.dropLast_subset _
      · exact List.Subset.refl _
    · cases hd
  unfold FilePath.unspeakable at hstart ⊢
  rw [List.any_eq_false] at hstart ⊢
  intro name hname
  rcases List.mem_append.mp hname with hname | hname
  · exact hstart name (hsubset hname)
  · rw [List.mem_singleton.mp hname]
    decide

theorem dots_notMem_projectFile {start : FilePath} (hd : d ∈ chain t start) : ".." ∉ projectFile d := by
  simpa [projectFileName] using (mem_chain_above hd List.prefix_rfl).2

/-- For a start that cannot be asked for, the search ends in an error of the system. -/
theorem findBy_of_unspeakable {start : FilePath} (hstart : start.unspeakable = true) :
    findBy read t start = .error (.breakdown unspeakablePath) := by
  unfold findBy
  rw [hstart]
  rfl

/-- A reader that does not break down leads to faults of the configuration only. -/
theorem ofConfiguration_of_documentBy {path : FilePath} (hread : ∀ text, ¬BreaksDown read text)
    (hpath : path.unspeakable = false) (h : documentBy read t path = .error fault) : fault.OfConfiguration := by
  rintro b rfl
  have hsettled := (settled_documentBy_iff read t path).mpr ⟨hpath, fun text _ => hread text⟩
  rwa [h] at hsettled

/-! ## What is read of a file -/

/-- Following a path through directories leads to what is at the path. -/
theorem walk_of_directories {whole : String} {names : FilePath} {entry : FileEntry} (hdots : ".." ∉ names)
    (hthrough : ∀ p, p <+: names → p ≠ names → t.entry? (d ++ p) = some .directory)
    (hentry : t.entry? (d ++ names) = some entry) : t.walk whole (some d) names = .ok entry := by
  induction names generalizing d with
  | nil =>
    rw [List.append_nil] at hentry
    unfold FileTree.walk
    rw [hentry]
  | cons name names ih =>
    rw [List.mem_cons, not_or] at hdots
    have hd := hthrough [] List.nil_prefix (List.cons_ne_nil name names).symm
    rw [List.append_nil] at hd
    unfold FileTree.walk
    rw [hd, if_neg (Ne.symm hdots.1)]
    refine ih hdots.2 ?_ (by rwa [List.append_assoc])
    intro p hp hne
    rw [List.append_assoc]
    refine hthrough (name :: p) (List.cons_prefix_cons.mpr ⟨rfl, hp⟩) ?_
    rwa [ne_eq, List.cons_inj_right]

theorem isFile_iff {path : FilePath} : t.isFile path = true ↔ ∃ bytes, t.entry? path = some (.file bytes) := by
  unfold FileTree.isFile
  split
  · rename_i bytes hentry
    exact iff_of_true rfl ⟨bytes, hentry⟩
  · rename_i hother
    refine iff_of_false Bool.false_ne_true ?_
    rintro ⟨bytes, hentry⟩
    exact hother bytes hentry

/-- What a file of a tree lies in are directories. -/
theorem entry?_above_file (ht : t.IsTree) {path : FilePath} {bytes : List Nat}
    (hfile : t.entry? path = some (.file bytes)) (hd : d <+: path) (hne : d ≠ path) :
    t.entry? d = some .directory := by
  have hmem : (path, bytes) ∈ t.files := by
    unfold FileTree.entry? at hfile
    split at hfile
    · rename_i hlookup
      cases hfile
      obtain ⟨before, after, hfiles, _⟩ := List.lookup_eq_some_iff.mp hlookup
      rw [hfiles]
      exact List.mem_append_right before List.mem_cons_self
    · split at hfile <;> cases hfile
  have hparent : d <+: path.dropLast := by
    obtain ⟨more, rfl⟩ := hd
    have hmore : more ≠ [] := by
      rintro rfl
      exact hne (List.append_nil d).symm
    rw [List.dropLast_append_of_ne_nil hmore]
    exact List.prefix_append _ _
  have hnofile := ht _ hmem d hparent
  cases hlookup : t.files.lookup d with
  | some other =>
    rw [isFile_iff.mpr ⟨other, by unfold FileTree.entry?; rw [hlookup]⟩] at hnofile
    cases hnofile
  | none =>
    have hsome : t.files.any (d.isPrefixOf ·.1) = true :=
      List.any_eq_true.mpr ⟨_, hmem, List.isPrefixOf_iff_prefix.mpr hd⟩
    unfold FileTree.entry?
    rw [hlookup]
    exact if_pos (by rw [hsome, Bool.or_true])

/-- The text of a file of a tree is what its bytes stand for in UTF-8. -/
theorem readText_eq_ok_iff (ht : t.IsTree) {path : FilePath} {bytes : List Nat} {text : String}
    (hpath : path.unspeakable = false) (hdots : ".." ∉ path)
    (hfile : t.entry? path = some (.file bytes)) :
    t.readText path = .ok text ↔
      ∃ cs, Text.decode bytes = .ok cs ∧ String.ofList (Text.unifyBreaks cs) = text := by
  have hwalk : t.walk (t.shown path) (some []) path = .ok (.file bytes) :=
    walk_of_directories hdots (fun p hp hne => entry?_above_file ht hfile hp hne) hfile
  unfold FileTree.readText
  rw [hpath, hwalk]
  cases hdecode : Text.decode bytes with
  | error f => simp [hdecode, Except.mapError, bind, Except.bind]
  | ok cs => simp [hdecode, Except.mapError, bind, Except.bind, pure, Except.pure]

/-- In a tree, a directory is spoilt when the bytes of its file of a project are no document. -/
theorem spoilt_iff (ht : t.IsTree) (hpath : (projectFile d).unspeakable = false) (hdots : ".." ∉ projectFile d) :
    Spoilt read t d ↔ t.isFile (ownFile d) = false ∧
      ∃ bytes, t.entry? (projectFile d) = some (.file bytes) ∧ ¬IsDocument read bytes := by
  have hinvalid : ∀ bytes, t.entry? (projectFile d) = some (.file bytes) →
      ((∃ text entries, t.readText (projectFile d) = .ok text ∧ read text = .ok entries) ↔
        IsDocument read bytes) := by
    intro bytes hfile
    unfold IsDocument
    simp only [readText_eq_ok_iff ht hpath hdots hfile]
    constructor
    · rintro ⟨_, entries, ⟨cs, hcs, rfl⟩, hentries⟩
      exact ⟨cs, entries, hcs, hentries⟩
    · rintro ⟨cs, entries, hcs, hentries⟩
      exact ⟨_, entries, ⟨cs, hcs, rfl⟩, hentries⟩
  constructor
  · intro h
    obtain ⟨bytes, hfile⟩ := isFile_iff.mp h.project
    exact ⟨h.own, bytes, hfile, mt (hinvalid bytes hfile).mpr h.invalid⟩
  · rintro ⟨hown, bytes, hfile, hno⟩
    exact ⟨hown, isFile_iff.mpr ⟨bytes, hfile⟩, mt (hinvalid bytes hfile).mp hno⟩

/-! ## What is not read -/

variable {t' : FileTree} {start : FilePath}

variable (read) in
/-- Two trees are alike in all that the search asks for: whether the start is a file, which directories there
are, and in those that it comes to, whether there is a configuration file of its own and, where there is none,
the file of a project. -/
structure AlikeReached (t t' : FileTree) (start : FilePath) : Prop where
  root : t.root = t'.root
  beginning : ∀ path, FileTree.resolve? start = some path → t.isFile path = t'.isFile path
  directories : ∀ d ∈ chain t start, t.entry? d = t'.entry? d
  own : ∀ d, Reached read t (chain t start) d → t.isFile (ownFile d) = t'.isFile (ownFile d)
  project : ∀ d, Reached read t (chain t start) d → t.isFile (ownFile d) = false →
    t.entry? (projectFile d) = t'.entry? (projectFile d)

theorem AlikeReached.chain_eq (h : AlikeReached read t t' start) : chain t start = chain t' start := by
  unfold chain
  cases hpath : FileTree.resolve? start with
  | none => rfl
  | some path => simp only [h.beginning path hpath]

theorem AlikeReached.inDirectoryBy_eq (h : AlikeReached read t t' start)
    (hd : Reached read t (chain t start) d) : inDirectoryBy read t d = inDirectoryBy read t' d := by
  have hown := h.own d hd
  unfold inDirectoryBy
  dsimp only
  rw [← hown]
  cases hfile : t.isFile (ownFile d) with
  | true => rfl
  | false =>
    have hproject := h.project d hd hfile
    have hthrough : ∀ p, p <+: projectFile d → t.entry? p = t'.entry? p := by
      intro p hp
      rcases List.prefix_concat_iff.mp hp with rfl | hp
      · exact hproject
      · exact h.directories p (mem_chain_above hd.mem hp).1
    rw [isFile_congr hproject, documentBy_congr read h.root (dots_notMem_projectFile hd.mem) hthrough]

/-- The search depends on the directories that it comes to only. -/
theorem firstInBy_congr
    (h : ∀ d, Reached read t directories d → inDirectoryBy read t d = inDirectoryBy read t' d) :
    firstInBy read t directories = firstInBy read t' directories := by
  induction directories with
  | nil => rfl
  | cons directory rest ih =>
    have hdirectory := h directory (reached_cons_iff.mpr (.inl rfl))
    unfold firstInBy
    rw [← hdirectory]
    cases hfound : inDirectoryBy read t directory with
    | error fault => rfl
    | ok found =>
      cases found with
      | some file => rfl
      | none =>
        have hpassed := inDirectoryBy_eq_none_iff.mp hfound
        exact ih fun d hd => h d (reached_cons_iff.mpr (.inr ⟨hpassed, hd⟩))

/-- **What is not read has no part in how the search ends.** -/
theorem AlikeReached.findBy_eq (h : AlikeReached read t t' start) : findBy read t' start = findBy read t start := by
  cases hstart : start.unspeakable with
  | true => rw [findBy_of_unspeakable hstart, findBy_of_unspeakable hstart]
  | false =>
    rw [Config.findBy_eq read t hstart, Config.findBy_eq read t' hstart, ← h.chain_eq]
    exact (firstInBy_congr fun d hd => h.inDirectoryBy_eq hd).symm

/-! ## The law -/

/-- **Where the search fails.** Let the reader of documents not break down. The search ends in a fault of the
configuration exactly when the start can be asked for, and a directory of the chain is spoilt, with no directory
below it that holds a configuration. For a start that cannot be asked for it ends in an error of the system,
whatever the tree is like. In a tree, to be spoilt is to have a file of a project whose bytes are no document,
and no configuration file of its own beside it. No file counts that the search does not come to: none above a
directory that holds a configuration, beside a configuration file of its own, or off the chain. -/
theorem findBy_fails_iff (read : Toml.Reader) (hread : ∀ text, ¬BreaksDown read text) (t : FileTree)
    (start : FilePath) :
    ((∃ fault, findBy read t start = .error fault ∧ fault.OfConfiguration) ↔
      start.unspeakable = false ∧ ∃ below d above, chain t start = below ++ d :: above ∧ Spoilt read t d ∧
        ∀ b ∈ below, ∀ file, ¬Holds read t (fun _ => True) b file) ∧
    (start.unspeakable = true → findBy read t start = .error (.breakdown unspeakablePath)) ∧
    (t.IsTree → start.unspeakable = false → ∀ d ∈ chain t start,
      (Spoilt read t d ↔ t.isFile (ownFile d) = false ∧
        ∃ bytes, t.entry? (projectFile d) = some (.file bytes) ∧ ¬IsDocument read bytes)) ∧
    ∀ t', AlikeReached read t t' start → findBy read t' start = findBy read t start := by
  refine ⟨?_, findBy_of_unspeakable, ?_, fun t' h => h.findBy_eq⟩
  · rw [← exists_reached_spoilt_iff]
    cases hstart : start.unspeakable with
    | true =>
      rw [findBy_of_unspeakable hstart]
      refine iff_of_false ?_ fun h => nomatch h.1
      rintro ⟨fault, hfault, hown⟩
      cases hfault
      exact hown _ rfl
    | false =>
      rw [Config.findBy_eq read t hstart]
      simp only [firstInBy_eq_error_iff, true_and]
      constructor
      · rintro ⟨fault, ⟨d, hreached, hspoilt, _⟩, _⟩
        exact ⟨d, hreached, hspoilt⟩
      · rintro ⟨d, hreached, hspoilt⟩
        obtain ⟨fault, hdocument, _⟩ := inDirectoryBy_of_spoilt hspoilt
        have hpath := unspeakable_projectFile hstart hreached.mem
        exact ⟨fault, ⟨d, hreached, hspoilt, hdocument⟩, ofConfiguration_of_documentBy hread hpath hdocument⟩
  · intro ht hstart d hd
    exact spoilt_iff ht (unspeakable_projectFile hstart hd) (dots_notMem_projectFile hd)

/-- A file of no text two directories up, behind the file of a project that is about other things. -/
theorem findBy_fails_outer :
    let read := withoutBreakdowns Toml.read
    let t : FileTree := ⟨"site", [(["a", "pyproject.toml"], "[project]\nname = \"x\"\n".toList.map Char.toNat),
      (["pyproject.toml"], [255])], []⟩
    (∀ text, ¬BreaksDown read text) ∧ ∃ fault, findBy read t ["a"] = .error fault ∧ fault.OfConfiguration := by
  intro read t
  have hread : ∀ text, ¬BreaksDown read text := withoutBreakdowns_not_breaksDown Toml.read
  refine ⟨hread, (findBy_fails_iff read hread t ["a"]).1.mpr ⟨rfl, [["a"]], [], [], rfl, ?_, ?_⟩⟩
  · have hnotext : t.readText (projectFile []) = .error (.undecodable ⟨0, 255, 1, .invalidStart⟩) := by
      decide +kernel
    exact spoilt_of_readText rfl rfl hnotext
  · refine List.forall_mem_singleton.mpr fun file hholds => ?_
    have htext : t.readText ["a", "pyproject.toml"] = .ok "[project]\nname = \"x\"\n" := by decide +kernel
    have hentries : Toml.read "[project]\nname = \"x\"\n" =
        .ok [(.str "project", .dict [(.str "name", .str "x")])] :=
      Toml.read_of_pass (by cbv) rfl
    have hdocument := documentBy_eq_ok read htext (withoutBreakdowns_eq_ok Toml.read hentries)
    unfold Holds at hholds
    rw [if_neg (show ¬t.isFile (ownFile ["a"]) = true from Bool.false_ne_true)] at hholds
    obtain ⟨-, rfl, place, hplace, -⟩ := hholds
    unfold productEntry? at hplace
    rw [show projectFile ["a"] = ["a", "pyproject.toml"] from rfl, hdocument] at hplace
    cases hplace

/-- A start with the character that ends every text, in a directory that is spoilt: the search ends, but in no
fault of the configuration. -/
theorem unspeakable_start_escapes :
    let read := withoutBreakdowns Toml.read
    let t : FileTree := ⟨"site", [(["pyproject.toml"], [255])], []⟩
    (∀ text, ¬BreaksDown read text) ∧
    (∃ below d above, chain t ["a\x00b"] = below ++ d :: above ∧ Spoilt read t d ∧
      ∀ b ∈ below, ∀ file, ¬Holds read t (fun _ => True) b file) ∧
    ¬∃ fault, findBy read t ["a\x00b"] = .error fault ∧ fault.OfConfiguration := by
  intro read t
  refine ⟨withoutBreakdowns_not_breaksDown Toml.read,
    ⟨[["a\x00b"]], [], [], rfl, ?_, ?_⟩, ?_⟩
  · have hnotext : t.readText (projectFile []) = .error (.undecodable ⟨0, 255, 1, .invalidStart⟩) := by
      decide +kernel
    exact spoilt_of_readText rfl rfl hnotext
  · refine List.forall_mem_singleton.mpr fun file hholds => ?_
    unfold Holds at hholds
    rw [if_neg (show ¬t.isFile (ownFile ["a\x00b"]) = true from Bool.false_ne_true)] at hholds
    exact absurd hholds.1 Bool.false_ne_true
  · rintro ⟨fault, hfault, hown⟩
    rw [findBy_of_unspeakable rfl] at hfault
    cases hfault
    exact hown _ rfl

end Config

end WordLint
