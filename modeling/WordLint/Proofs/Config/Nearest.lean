import Mathlib
import WordLint.Config.Files
import WordLint.Proofs.Toml.Passing

/-!
# The nearest configuration

The search for a configuration goes from a directory up to the root of the tree, over the `chain` of the
start. What a directory holds is said by `Holds`: its own configuration file, or else the file of a project
in which the table of tools has this product as a key. `Nearest` says which one is found: the one of the
first directory that holds any.

**The law** (`findBy_nearest`): as long as the files of projects on the chain are documents, the search
comes to an end, with the nearest configuration; and nothing counts but what is on the chain. The search does
not look at what the product's key stands for. It finds the nearest configuration for which that has to be a
table only if the file it stops at has a table there; `product_number_found` is a file that has not.
-/

namespace WordLint.Config

/-! ## Which configuration is the nearest one -/

/-- The first directory of a chain that holds any file holds this one, or no directory holds a file. -/
def Nearest (holds : FilePath → FilePath → Prop) (chain : List FilePath) : Option FilePath → Prop
  | some file => ∃ below directory above, chain = below ++ directory :: above ∧ holds directory file ∧
      ∀ d ∈ below, ∀ f, ¬holds d f
  | none => ∀ d ∈ chain, ∀ f, ¬holds d f

namespace Nearest

variable {holds : FilePath → FilePath → Prop} {directory : FilePath} {rest : List FilePath}

theorem here {file : FilePath} (h : holds directory file) : Nearest holds (directory :: rest) (some file) :=
  ⟨[], directory, rest, rfl, h, fun _ hd => absurd hd List.not_mem_nil⟩

/-- A directory that holds nothing is passed over. -/
theorem above {found : Option FilePath} (hnone : ∀ f, ¬holds directory f) (h : Nearest holds rest found) :
    Nearest holds (directory :: rest) found := by
  cases found with
  | none => exact List.forall_mem_cons.mpr ⟨hnone, h⟩
  | some file =>
    obtain ⟨below, d, above, rfl, hd, hbelow⟩ := h
    exact ⟨directory :: below, d, above, rfl, hd, List.forall_mem_cons.mpr ⟨hnone, hbelow⟩⟩

/-- With a further condition on the files, the nearest one stays the nearest one if it meets the condition,
and only then. -/
theorem and_iff {fine : FilePath → Prop} {chain : List FilePath} {found : Option FilePath}
    (h : Nearest holds chain found) :
    Nearest (fun d f => holds d f ∧ fine f) chain found ↔ ∀ file, found = some file → fine file := by
  cases found with
  | none => exact iff_of_true (fun d hd f hf => h d hd f hf.1) (by simp)
  | some file =>
    constructor
    · rintro ⟨_, _, _, _, ⟨_, hfine⟩, _⟩ f hf
      cases hf
      exact hfine
    · intro hfine
      obtain ⟨below, d, above, hchain, hd, hbelow⟩ := h
      exact ⟨below, d, above, hchain, ⟨hd, hfine file rfl⟩, fun d' hd' f hf => hbelow d' hd' f hf.1⟩

end Nearest

/-! ## What a directory holds -/

variable (read : Toml.Reader) (t : FileTree)

/-- The file of a directory that holds nothing but the configuration. -/
abbrev ownFile (directory : FilePath) : FilePath := directory ++ [configFileName]

/-- The file of a project in a directory. -/
abbrev projectFile (directory : FilePath) : FilePath := directory ++ [projectFileName]

/-- What the product's key stands for in the file of a project. -/
def productEntry? (path : FilePath) : Option Place :=
  match documentBy read t path with
  | .ok document => (document.table toolKey).get? productKey
  | .error _ => none

/-- What is in a place is a table. -/
def IsTable (place : Place) : Prop :=
  ∃ entries, place.value = .dict entries

/-- The configuration that a directory holds, where it counts what the product's key stands for. -/
def Holds (counts : Place → Prop) (directory file : FilePath) : Prop :=
  if t.isFile (ownFile directory) then file = ownFile directory
  else t.isFile (projectFile directory) ∧ file = projectFile directory ∧
    ∃ place, productEntry? read t file = some place ∧ counts place

/-- In the file of a project, the product's key stands for a table. -/
def Tabled (file : FilePath) : Prop :=
  file.getLast? = some projectFileName → ∃ place, productEntry? read t file = some place ∧ IsTable place

theorem holds_isTable_iff {directory file : FilePath} :
    Holds read t IsTable directory file ↔ Holds read t (fun _ => True) directory file ∧ Tabled read t file := by
  have hlast (name : String) : (directory ++ [name]).getLast? = some name := List.getLast?_concat
  unfold Holds Tabled
  split
  · constructor
    · rintro rfl
      refine ⟨rfl, fun h => ?_⟩
      rw [hlast] at h
      exact absurd h (by decide)
    · exact And.left
  · constructor
    · rintro ⟨hfile, rfl, place, hplace, htable⟩
      exact ⟨⟨hfile, rfl, place, hplace, trivial⟩, fun _ => ⟨place, hplace, htable⟩⟩
    · rintro ⟨⟨hfile, rfl, -⟩, htabled⟩
      exact ⟨hfile, rfl, htabled (hlast projectFileName)⟩

/-! ## The search -/

/-- The files of projects in some directories are documents. -/
def Documented (directories : List FilePath) : Prop :=
  ∀ d ∈ directories, t.isFile (projectFile d) → ∃ document, documentBy read t (projectFile d) = .ok document

/-- One directory: what it holds is found. -/
theorem inDirectoryBy_holds {directory : FilePath}
    (h : t.isFile (projectFile directory) → ∃ document, documentBy read t (projectFile directory) = .ok document) :
    ∃ found, inDirectoryBy read t directory = .ok found ∧
      ∀ file, found = some file ↔ Holds read t (fun _ => True) directory file := by
  unfold inDirectoryBy Holds
  by_cases hown : t.isFile (ownFile directory)
  · exact ⟨some (ownFile directory), by simp [hown, pure, Except.pure], by simp [hown, eq_comm]⟩
  by_cases hproject : t.isFile (projectFile directory)
  · obtain ⟨document, hdocument⟩ := h hproject
    have hentry : productEntry? read t (projectFile directory) = (document.table toolKey).get? productKey := by
      unfold productEntry?
      rw [hdocument]
    cases hplace : (document.table toolKey).get? productKey with
    | none =>
      refine ⟨none, by simp [hown, hproject, hdocument, hplace, pure, Except.pure, bind, Except.bind], ?_⟩
      intro file
      refine iff_of_false nofun ?_
      rw [if_neg hown]
      rintro ⟨-, rfl, place, hsome, -⟩
      rw [hentry, hplace] at hsome
      cases hsome
    | some place =>
      refine ⟨some (projectFile directory),
        by simp [hown, hproject, hdocument, hplace, pure, Except.pure, bind, Except.bind], ?_⟩
      intro file
      rw [if_neg hown]
      constructor
      · rintro ⟨⟩
        exact ⟨hproject, rfl, place, hentry.trans hplace, trivial⟩
      · rintro ⟨-, rfl, -⟩
        rfl
  · exact ⟨none, by simp [hown, hproject, pure, Except.pure], by simp [hown, hproject]⟩

/-- Some directories: the nearest configuration is found. -/
theorem firstInBy_nearest {directories : List FilePath} (h : Documented read t directories) :
    ∃ found, firstInBy read t directories = .ok found ∧
      Nearest (Holds read t fun _ => True) directories found := by
  induction directories with
  | nil => exact ⟨none, rfl, fun _ hd => absurd hd List.not_mem_nil⟩
  | cons directory rest ih =>
    obtain ⟨hdirectory, hrest⟩ := List.forall_mem_cons.mp h
    obtain ⟨found, hfound, hholds⟩ := inDirectoryBy_holds read t hdirectory
    unfold firstInBy
    rw [hfound]
    cases found with
    | some file => exact ⟨some file, rfl, .here ((hholds file).mp rfl)⟩
    | none =>
      obtain ⟨found, hfound, hnearest⟩ := ih hrest
      exact ⟨found, hfound, hnearest.above fun f hf => nomatch (hholds f).mpr hf⟩

/-- The directories that are searched: the start, or the directory of a start that is a file, and all above
it; none for a start outside of the tree. -/
def chain (start : FilePath) : List FilePath :=
  match FileTree.resolve? start with
  | some path => upwards (if t.isFile path then path.dropLast else path)
  | none => []

theorem findBy_eq {start : FilePath} (h : start.unspeakable = false) :
    findBy read t start = firstInBy read t (chain t start) := by
  unfold findBy chain
  rw [h]
  cases FileTree.resolve? start <;> rfl

/-! ## The directories on the way -/

theorem upwards_concat (directory : FilePath) (name : String) :
    upwards (directory ++ [name]) = (directory ++ [name]) :: upwards directory := by
  unfold upwards
  rw [List.length_append, List.length_singleton, List.range_succ_eq_map, List.map_cons, List.map_map]
  refine congrArg₂ List.cons (List.take_of_length_le (by simp)) (List.map_congr_left fun up _ => ?_)
  rw [Function.comp_apply, Nat.succ_eq_add_one, Nat.add_sub_add_right,
    List.take_append_of_le_length (Nat.sub_le _ _)]

/-- Above a directory are those that its path goes through. -/
theorem mem_upwards_iff {directory d : FilePath} : d ∈ upwards directory ↔ d <+: directory := by
  induction directory using List.reverseRecOn with
  | nil => simp [upwards]
  | append_singleton directory name ih =>
    rw [upwards_concat, List.mem_cons, ih, List.prefix_concat_iff]

/-- A path of the tree has no steps upwards. -/
theorem dots_notMem_resolve {start path : FilePath} (h : FileTree.resolve? start = some path) : ".." ∉ path := by
  have hfold : ∀ (names done : FilePath), ".." ∉ done →
      names.foldlM (fun done name => if name = ".." then FileTree.parent? done else some (done ++ [name])) done =
        some path → ".." ∉ path := by
    intro names
    induction names with
    | nil =>
      rintro done hdone ⟨⟩
      exact hdone
    | cons name names ih =>
      intro done hdone h
      rw [List.foldlM_cons] at h
      by_cases hname : name = ".."
      · rw [if_pos hname] at h
        unfold FileTree.parent? at h
        split at h
        · cases h
        · exact ih _ (fun hmem => hdone (List.dropLast_subset _ hmem)) h
      · rw [if_neg hname] at h
        exact ih _ (by simp [hdone, Ne.symm hname]) h
  exact hfold start [] List.not_mem_nil h

/-! ## What is not on the way -/

variable {t}
variable {t' : FileTree}

/-- Following a path looks at nothing but what the path goes through. -/
theorem walk_congr {whole : String} {directory names : FilePath} (hnames : ".." ∉ names)
    (h : ∀ d, d <+: names → t.entry? (directory ++ d) = t'.entry? (directory ++ d)) :
    t.walk whole (some directory) names = t'.walk whole (some directory) names := by
  have hdirectory := h [] List.nil_prefix
  rw [List.append_nil] at hdirectory
  induction names generalizing directory with
  | nil =>
    unfold FileTree.walk
    rw [hdirectory]
  | cons name names ih =>
    rw [List.mem_cons, not_or] at hnames
    obtain ⟨hname, hnames⟩ := hnames
    unfold FileTree.walk
    rw [hdirectory, if_neg (Ne.symm hname)]
    have hbelow : ∀ d, d <+: names →
        t.entry? (directory ++ [name] ++ d) = t'.entry? (directory ++ [name] ++ d) := by
      intro d hd
      rw [List.append_assoc]
      exact h _ (List.cons_prefix_cons.mpr ⟨rfl, hd⟩)
    rw [ih hnames hbelow (by simpa using hbelow [] List.nil_prefix)]

theorem documentBy_congr {path : FilePath} (hroot : t.root = t'.root) (hpath : ".." ∉ path)
    (h : ∀ d, d <+: path → t.entry? d = t'.entry? d) : documentBy read t path = documentBy read t' path := by
  have hshown : t.shown path = t'.shown path := by
    unfold FileTree.shown
    rw [hroot]
  have hwalk (whole : String) : t.walk whole (some []) path = t'.walk whole (some []) path := walk_congr hpath h
  unfold documentBy FileTree.readText
  rw [hshown, hwalk]

/-- Two trees are alike in all that is on the chain of a start. -/
structure AlikeAlong (t t' : FileTree) (start : FilePath) : Prop where
  root : t.root = t'.root
  beginning : ∀ path, FileTree.resolve? start = some path → t.entry? path = t'.entry? path
  directories : ∀ d ∈ chain t start, t.entry? d = t'.entry? d
  files : ∀ d ∈ chain t start, t.entry? (ownFile d) = t'.entry? (ownFile d) ∧
    t.entry? (projectFile d) = t'.entry? (projectFile d)

theorem isFile_congr {path : FilePath} (h : t.entry? path = t'.entry? path) : t.isFile path = t'.isFile path := by
  unfold FileTree.isFile
  rw [h]

/-- The same directories are searched in trees that are alike. -/
theorem AlikeAlong.chain_eq {start : FilePath} (h : AlikeAlong t t' start) : chain t start = chain t' start := by
  unfold chain
  cases hpath : FileTree.resolve? start with
  | none => rfl
  | some path => simp only [isFile_congr (h.beginning path hpath)]

/-- What is above a directory of the chain is on the chain, and no path there has steps upwards. -/
theorem mem_chain_above {start directory d : FilePath} (h : directory ∈ chain t start)
    (hd : d <+: directory) : d ∈ chain t start ∧ ".." ∉ d := by
  unfold chain at h ⊢
  split at h
  · rename_i path hpath
    have hdots := dots_notMem_resolve hpath
    rw [mem_upwards_iff] at h
    refine ⟨mem_upwards_iff.mpr (hd.trans h), fun hmem => hdots ?_⟩
    have hmem := (hd.trans h).subset hmem
    split at hmem
    · exact List.dropLast_subset _ hmem
    · exact hmem
  · cases h

theorem AlikeAlong.inDirectoryBy_eq {start directory : FilePath} (h : AlikeAlong t t' start)
    (hdirectory : directory ∈ chain t start) :
    inDirectoryBy read t directory = inDirectoryBy read t' directory := by
  obtain ⟨hown, hproject⟩ := h.files directory hdirectory
  have hdots : ".." ∉ projectFile directory := by
    simpa [projectFileName] using (mem_chain_above hdirectory List.prefix_rfl).2
  have hthrough : ∀ d, d <+: projectFile directory → t.entry? d = t'.entry? d := by
    intro d hd
    rcases List.prefix_concat_iff.mp hd with rfl | hd
    · exact hproject
    · exact h.directories d (mem_chain_above hdirectory hd).1
  unfold inDirectoryBy
  dsimp only
  rw [isFile_congr hown, isFile_congr hproject, documentBy_congr read h.root hdots hthrough]

/-- **Nothing counts but what is on the chain.** -/
theorem AlikeAlong.findBy_eq {start : FilePath} (h : AlikeAlong t t' start) :
    findBy read t start = findBy read t' start := by
  have hfirst : ∀ directories : List FilePath, (∀ d ∈ directories, d ∈ chain t start) →
      firstInBy read t directories = firstInBy read t' directories := by
    intro directories
    induction directories with
    | nil => exact fun _ => rfl
    | cons directory rest ih =>
      intro hmem
      obtain ⟨hdirectory, hrest⟩ := List.forall_mem_cons.mp hmem
      unfold firstInBy
      rw [h.inDirectoryBy_eq read hdirectory, ih hrest]
  cases hstart : start.unspeakable with
  | true =>
    unfold findBy
    rw [hstart]
    rfl
  | false =>
    rw [Config.findBy_eq read t hstart, Config.findBy_eq read t' hstart, ← h.chain_eq]
    exact hfirst _ fun _ => id

/-! ## The law -/

/-- **The nearest configuration is found.** It is the nearest one with a table for this product if the file
that is found has one, and only then. -/
theorem findBy_nearest (t : FileTree) {start : FilePath} (hstart : start.unspeakable = false)
    (hdocuments : Documented read t (chain t start)) :
    ∃ found, findBy read t start = .ok found ∧
      Nearest (Holds read t fun _ => True) (chain t start) found ∧
      (Nearest (Holds read t IsTable) (chain t start) found ↔ ∀ file, found = some file → Tabled read t file) ∧
      ∀ t', AlikeAlong t t' start → findBy read t' start = .ok found := by
  obtain ⟨found, hfound, hnearest⟩ := firstInBy_nearest read t hdocuments
  rw [← findBy_eq read t hstart] at hfound
  refine ⟨found, hfound, hnearest, ?_, fun t' h => (h.findBy_eq read).symm.trans hfound⟩
  have hholds : Holds read t IsTable = fun d f => Holds read t (fun _ => True) d f ∧ Tabled read t f :=
    funext fun d => funext fun f => propext (holds_isTable_iff read t)
  rw [hholds]
  exact hnearest.and_iff

theorem documentBy_eq_ok {path : FilePath} {text : String} {entries : List (Value × Value)}
    (htext : t.readText path = .ok text) (hread : read text = .ok entries) :
    documentBy read t path = .ok (.root (.dict entries)) := by
  unfold documentBy
  rw [htext]
  dsimp only
  rw [hread]

/-- A table for this product two directories up, behind the file of a project that is about other things. -/
theorem findBy_nearest_outer :
    let characters := fun (text : String) => text.toList.map Char.toNat
    let t : FileTree := ⟨"site", [(["a", "pyproject.toml"], characters "[project]\nname = \"x\"\n"),
      (["pyproject.toml"], characters "[tool.blockwords]\n")], [["a", "b"]]⟩
    ∃ found, findBy Toml.read t ["a", "b"] = .ok found ∧
      Nearest (Holds Toml.read t fun _ => True) (chain t ["a", "b"]) found ∧
      (Nearest (Holds Toml.read t IsTable) (chain t ["a", "b"]) found ↔
        ∀ file, found = some file → Tabled Toml.read t file) ∧
      ∀ t', AlikeAlong t t' ["a", "b"] → findBy Toml.read t' ["a", "b"] = .ok found := by
  intro characters t
  refine findBy_nearest Toml.read t (by decide +kernel) ?_
  have hinner : t.readText ["a", "pyproject.toml"] = .ok "[project]\nname = \"x\"\n" := by decide +kernel
  have houter : t.readText ["pyproject.toml"] = .ok "[tool.blockwords]\n" := by decide +kernel
  have hchain : chain t ["a", "b"] = [["a", "b"], ["a"], []] := by decide +kernel
  unfold Documented
  rw [hchain]
  refine List.forall_mem_cons.mpr ⟨fun h => absurd h (by decide +kernel), List.forall_mem_cons.mpr ⟨fun _ => ?_,
    List.forall_mem_singleton.mpr fun _ => ?_⟩⟩
  · exact ⟨_, documentBy_eq_ok Toml.read hinner (Toml.read_of_pass (by cbv) (by decide +kernel))⟩
  · exact ⟨_, documentBy_eq_ok Toml.read houter (Toml.read_of_pass (by cbv) (by decide +kernel))⟩

/-- A number for this product in the file of a project: the file is found, though no directory holds a table
for this product. -/
theorem product_number_found :
    let t : FileTree := ⟨"site", [(["pyproject.toml"], "[tool]\nblockwords = 1\n".toList.map Char.toNat)], []⟩
    Documented Toml.read t (chain t []) ∧ find t [] = .ok (some ["pyproject.toml"]) ∧
      Nearest (Holds Toml.read t IsTable) (chain t []) none := by
  intro t
  have hchain : chain t [] = [[]] := by decide +kernel
  have htext : t.readText ["pyproject.toml"] = .ok "[tool]\nblockwords = 1\n" := by decide +kernel
  have hread : Toml.read "[tool]\nblockwords = 1\n" = .ok [(.str "tool", .dict [(.str "blockwords", .int 1)])] :=
    Toml.read_of_pass (by cbv) (by decide +kernel)
  have hdocument := documentBy_eq_ok Toml.read htext hread
  have hown : t.isFile (ownFile []) = false := by decide +kernel
  have hproject : t.isFile (projectFile []) = true := by decide +kernel
  obtain ⟨place, hplace, hnumber⟩ :
      ∃ place, productEntry? Toml.read t (projectFile []) = some place ∧ place.value = .int 1 := by
    unfold productEntry?
    rw [show projectFile [] = ["pyproject.toml"] from rfl, hdocument]
    exact ⟨_, rfl, rfl⟩
  refine ⟨?_, ?_, ?_⟩
  · unfold Documented
    rw [hchain]
    exact List.forall_mem_singleton.mpr fun _ => ⟨_, hdocument⟩
  · unfold find
    rw [findBy_eq Toml.read t rfl, hchain, firstInBy, inDirectoryBy]
    dsimp only
    rw [hown, hproject, show [] ++ [projectFileName] = ["pyproject.toml"] from rfl, hdocument]
    rfl
  · rw [hchain]
    refine List.forall_mem_singleton.mpr fun file h => ?_
    unfold Holds at h
    rw [hown, if_neg Bool.false_ne_true] at h
    obtain ⟨-, rfl, place', hplace', entries, hentries⟩ := h
    cases hplace.symm.trans hplace'
    rw [hnumber] at hentries
    cases hentries

end WordLint.Config
