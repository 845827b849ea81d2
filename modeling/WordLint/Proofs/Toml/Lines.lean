import Mathlib
import WordLint.Proofs.Toml.Names

/-!
# Documents of lines

The documents that are written for a configuration are made of four kinds of lines: blank ones, comments,
headers of tables and keys with arrays of texts. `Line.effect` is what a line does to the tables that have
been read.

**The law** (`readLines_chars`): reading the lines of a document has the effects of its lines, one after the
other. A carriage return in front of the end of a line, which only a comment can hold, becomes a blank
before the document is read; so lines are read as their blanked forms (`documentTables_chars`), of which those that are
neither blank nor comments are the same (`blankReturns_lines`).
-/

namespace WordLint.Toml

/-! ## Lines -/

/-- A line of a document. -/
inductive Line where
  | blank
  | comment (text : List Char)
  | header (table name : List Char)
  | entry (key : List Char) (texts : List (List Char))

namespace Line

/-- A line as it is written. -/
def chars : Line → List Char
  | blank => ['\n']
  | comment text => '#' :: (text ++ ['\n'])
  | header table name => '[' :: (table ++ '.' :: keyChars name ++ [']', '\n'])
  | entry key texts => key ++ ' ' :: '=' :: ' ' :: '[' :: (itemsText texts ++ [']', '\n'])

/-- A comment ends where its line does, and tables and keys have bare names. -/
def Shaped : Line → Prop
  | blank => True
  | comment text => '\n' ∉ text
  | header table _ => table ≠ [] ∧ ∀ c ∈ table, isBare c
  | entry key _ => key ≠ [] ∧ ∀ c ∈ key, isBare c

/-- A line whose name or texts are among some that are told apart. -/
def Within (names texts : List Char → Prop) : Line → Prop
  | blank => True
  | comment text => '\n' ∉ text
  | header table name => table ≠ [] ∧ (∀ c ∈ table, isBare c) ∧ names name
  | entry key ps => key ≠ [] ∧ (∀ c ∈ key, isBare c) ∧ ∀ p ∈ ps, texts p

/-- A line that is read as it is written. -/
def Fine : Line → Prop :=
  Within NameKept ReadsBack

theorem Within.shaped {names texts : List Char → Prop} {l : Line} (h : l.Within names texts) : l.Shaped := by
  cases l with
  | blank => exact h
  | comment text => exact h
  | header table name => exact ⟨h.1, h.2.1⟩
  | entry key ps => exact ⟨h.1, h.2.1⟩

theorem Fine.shaped {l : Line} (h : l.Fine) : l.Shaped :=
  Within.shaped h

/-- A blank line or a comment. -/
def isQuiet : Line → Bool
  | blank | comment _ => true
  | header _ _ | entry _ _ => false

/-- What a line does to the tables that have been read. -/
def effect (p : Progress) : Line → Option Progress
  | blank | comment _ => some p
  | header table name => p.open? [String.ofList table, String.ofList name] openTable
  | entry key texts =>
    (within false (setKey (String.ofList key) (.list (textValues texts))) p.path p.entries).map
      fun entries => ⟨entries, p.path⟩

end Line

/-- The lines that are neither blank nor comments. -/
def loud (ls : List Line) : List Line :=
  ls.filter (!·.isQuiet)

theorem loud_append (ls more : List Line) : loud (ls ++ more) = loud ls ++ loud more :=
  List.filter_append ..

/-! ## Reading one line -/

/-- Only what follows blanks, line breaks and comments counts for the lines of a document. -/
theorem readLines_congr {cs cs' : List Char} (h : skipLines cs = skipLines cs') (fuel : Nat) (p : Progress) :
    readLines fuel p cs = readLines fuel p cs' := by
  cases fuel with
  | zero => rfl
  | succ fuel => rw [readLines, readLines, h]

theorem skipLines_break (t : List Char) : skipLines ('\n' :: t) = skipLines t := by
  rw [skipLines, if_pos (by decide)]

/-- A line ends at the first line break. -/
theorem dropWhile_line {text : List Char} (htext : '\n' ∉ text) (t : List Char) :
    (text ++ '\n' :: t).dropWhile (· ≠ '\n') = '\n' :: t := by
  rw [List.dropWhile_append_of_pos]
  · simp
  · intro c hc
    rw [decide_eq_true_iff]
    rintro rfl
    exact htext hc

theorem skipLines_comment {text : List Char} (htext : '\n' ∉ text) (t : List Char) :
    skipLines ('#' :: (text ++ '\n' :: t)) = skipLines t := by
  rw [skipLines, if_neg (by decide), if_pos rfl, dropWhile_line htext, skipLines_break]

/-- A sign that no blank, line break or comment begins with is not passed over. -/
theorem skipLines_sign {c : Char} (hspace : isSpace c = false) (hbreak : c ≠ '\n') (hcomment : c ≠ '#')
    (t : List Char) : skipLines (c :: t) = c :: t := by
  rw [skipLines, if_neg (by simp [hspace, hbreak]), if_neg hcomment]

/-- A bare key begins with such a sign, which is no bracket either. -/
theorem isBare_sign {c : Char} (h : isBare c = true) :
    isSpace c = false ∧ c ≠ '\n' ∧ c ≠ '#' ∧ c ≠ '[' := by
  refine ⟨?_, ?_, ?_, ?_⟩
  · by_contra hspace
    rw [Bool.not_eq_false, isSpace, Bool.or_eq_true, beq_iff_eq, beq_iff_eq] at hspace
    rcases hspace with rfl | rfl <;> exact absurd h (by decide)
  · rintro rfl; exact absurd h (by decide)
  · rintro rfl; exact absurd h (by decide)
  · rintro rfl; exact absurd h (by decide)

/-- A line with one bracket is a header. -/
theorem readLines_bracket {c : Char} (hc : c ≠ '[') (fuel : Nat) (p : Progress) (t : List Char) :
    readLines (fuel + 1) p ('[' :: c :: t) =
      (orMalformed (header? p (c :: t))).bind fun (p, rest) => readLines fuel p rest := by
  rw [readLines, skipLines_sign (by decide) (by decide) (by decide)]
  split
  · rename_i heq
    cases heq
  · rename_i heq
    cases heq
    exact absurd rfl hc
  · rename_i heq
    cases heq
    rfl
  · rename_i hother
    exact (hother (c :: t) rfl).elim

/-- A line that begins with a bare key sets it. -/
theorem readLines_key {c : Char} (hc : isBare c = true) (fuel : Nat) (p : Progress) (t : List Char) :
    readLines (fuel + 1) p (c :: t) =
      (readAssignment p (c :: t)).bind fun (p, rest) => readLines fuel p rest := by
  obtain ⟨hspace, hbreak, hcomment, hbracket⟩ := isBare_sign hc
  rw [readLines, skipLines_sign hspace hbreak hcomment]
  split
  · rename_i heq
    cases heq
  · rename_i heq
    cases heq
    exact absurd rfl hbracket
  · rename_i heq
    cases heq
    exact absurd rfl hbracket
  · rfl

/-- The line of a header. -/
theorem readLines_header_chars {table name : List Char} (h : (Line.header table name).Shaped) (fuel : Nat)
    (p : Progress) (t : List Char) :
    readLines (fuel + 1) p ((Line.header table name).chars ++ t) =
      (orMalformed (header? p (table ++ '.' :: keyChars name ++ ']' :: '\n' :: t))).bind
        fun (p, rest) => readLines fuel p rest := by
  obtain ⟨hne, htable⟩ := h
  obtain ⟨c, cs, rfl⟩ := List.exists_cons_of_ne_nil hne
  have hbracket := (isBare_sign (htable c List.mem_cons_self)).2.2.2
  have hchars : (Line.header (c :: cs) name).chars ++ t =
      '[' :: c :: (cs ++ '.' :: keyChars name ++ ']' :: '\n' :: t) := by
    simp [Line.chars]
  rw [hchars, readLines_bracket hbracket]
  rfl

/-- A header is read. -/
theorem readLines_header {table name : List Char} (h : (Line.header table name).Fine) (fuel : Nat)
    (p : Progress) (t : List Char) :
    readLines (fuel + 1) p ((Line.header table name).chars ++ t) =
      (orMalformed ((Line.header table name).effect p)).bind fun p => readLines fuel p t := by
  have hshaped := h.shaped
  obtain ⟨hne, htable, hname⟩ := h
  have htext := headerText?_written htable hname ('\n' :: t)
  have hnames := headerNames?_written hne htable hname
  have hheader : header? p (table ++ '.' :: keyChars name ++ ']' :: '\n' :: t) =
      ((Line.header table name).effect p).map (·, t) := by
    unfold header?
    rw [htext]
    show (do
      let names ← headerNames? (table ++ '.' :: keyChars name)
      return (← p.open? names openTable, ← endLine? ('\n' :: t))) = _
    rw [hnames]
    show (do return (← (Line.header table name).effect p, t)) = _
    cases (Line.header table name).effect p <;> rfl
  rw [readLines_header_chars hshaped, hheader]
  cases (Line.header table name).effect p <;> rfl

/-- The texts of an array are fewer than its characters. -/
theorem length_le_itemsText (ps : List (List Char)) : ps.length ≤ (itemsText ps).length := by
  induction ps with
  | nil => exact Nat.le_refl 0
  | cons p ps ih =>
    cases ps with
    | nil => simp [itemsText, quoted]
    | cons q ps =>
      rw [itemsText]
      simp only [List.length_append, List.length_cons] at ih ⊢
      omega

/-- How many characters an array of texts takes does not depend on what stands behind it. -/
theorem extent_itemsText (ps : List (List Char)) (t : List Char) :
    extent ('[' :: (itemsText ps ++ ']' :: t)) = (itemsText ps).length + 2 := by
  show (arrayText? (itemsText ps ++ ']' :: t)).elim 0 (fun found => found.1.length + 2) = _
  rw [arrayText?_itemsText]
  rfl

theorem Progress.set?_single (p : Progress) (key : String) (v : Value) :
    p.set? [key] v = (within false (setKey key v) p.path p.entries).map fun entries => ⟨entries, p.path⟩ := by
  show (do return (⟨← within false (setKey key v) p.path p.entries, p.path⟩ : Progress)) = _
  cases within false (setKey key v) p.path p.entries <;> rfl

/-- A key with an array of texts is an assignment, up to the end of its line, when the array has a value. -/
theorem readAssignment_array {key : List Char} (hne : key ≠ []) (hkey : ∀ c ∈ key, isBare c)
    {texts : List (List Char)} {v : Except ReadError Value} {t : List Char}
    (hvalue : readValue (extent ('[' :: (itemsText texts ++ ']' :: '\n' :: t)) + 1) true
      ('[' :: (itemsText texts ++ ']' :: '\n' :: t)) = v.map (·, '\n' :: t))
    (p : Progress) :
    readAssignment p (key ++ ' ' :: '=' :: ' ' :: '[' :: (itemsText texts ++ ']' :: '\n' :: t)) =
      (v.bind fun v => orMalformed (p.set? [String.ofList key] v)).map (·, t) := by
  unfold readAssignment
  rw [key?_bare hne hkey]
  show (do
    let read ← readValue (extent ('[' :: (itemsText texts ++ ']' :: '\n' :: t)) + 1) true
      ('[' :: (itemsText texts ++ ']' :: '\n' :: t))
    orMalformed do return (← p.set? [String.ofList key] read.1, ← endLine? read.2)) = _
  rw [hvalue]
  cases v with
  | error e => rfl
  | ok v =>
    show orMalformed (do return (← p.set? [String.ofList key] v, t)) = _
    cases hset : p.set? [String.ofList key] v <;> simp [hset, Except.map, Except.bind]

/-- So it is when its texts are read back. -/
theorem readAssignment_entry {key : List Char} {texts : List (List Char)} (h : (Line.entry key texts).Fine)
    (p : Progress) (t : List Char) :
    readAssignment p (key ++ ' ' :: '=' :: ' ' :: '[' :: (itemsText texts ++ ']' :: '\n' :: t)) =
      (orMalformed ((Line.entry key texts).effect p)).map (·, t) := by
  obtain ⟨hne, hkey, htexts⟩ := h
  have hvalue : readValue (extent ('[' :: (itemsText texts ++ ']' :: '\n' :: t)) + 1) true
      ('[' :: (itemsText texts ++ ']' :: '\n' :: t)) =
      (Except.ok (.list (textValues texts)) : Except ReadError Value).map (·, '\n' :: t) := by
    have hlength := length_le_itemsText texts
    rw [extent_itemsText]
    exact readValue_itemsText htexts true _ (by omega)
  rw [readAssignment_array hne hkey hvalue, Line.effect, ← Progress.set?_single]
  rfl

/-- The line of a key with an array of texts. -/
theorem readLines_entry_chars {key : List Char} {texts : List (List Char)} (h : (Line.entry key texts).Shaped)
    (fuel : Nat) (p : Progress) (t : List Char) :
    readLines (fuel + 1) p ((Line.entry key texts).chars ++ t) =
      (readAssignment p (key ++ ' ' :: '=' :: ' ' :: '[' :: (itemsText texts ++ ']' :: '\n' :: t))).bind
        fun (p, rest) => readLines fuel p rest := by
  obtain ⟨hne, hkey⟩ := h
  obtain ⟨c, cs, rfl⟩ := List.exists_cons_of_ne_nil hne
  have hchars : (Line.entry (c :: cs) texts).chars ++ t =
      c :: (cs ++ ' ' :: '=' :: ' ' :: '[' :: (itemsText texts ++ ']' :: '\n' :: t)) := by
    simp [Line.chars]
  rw [hchars, readLines_key (hkey c List.mem_cons_self)]
  rfl

/-- A key with an array of texts is read. -/
theorem readLines_entry {key : List Char} {texts : List (List Char)} (h : (Line.entry key texts).Fine)
    (fuel : Nat) (p : Progress) (t : List Char) :
    readLines (fuel + 1) p ((Line.entry key texts).chars ++ t) =
      (orMalformed ((Line.entry key texts).effect p)).bind fun p => readLines fuel p t := by
  rw [readLines_entry_chars h.shaped, readAssignment_entry h]
  cases (Line.entry key texts).effect p <;> rfl

/-! ## Reading all lines -/

/-- Some lines as they are written. -/
def linesChars (ls : List Line) : List Char :=
  ls.flatMap Line.chars

theorem linesChars_cons (l : Line) (ls : List Line) : linesChars (l :: ls) = l.chars ++ linesChars ls :=
  List.flatMap_cons

/-- Blank lines and comments are passed over. -/
theorem readLines_quiet {l : Line} (h : l.Shaped) (hquiet : l.isQuiet = true) (fuel : Nat) (p : Progress)
    (t : List Char) : readLines (fuel + 1) p (l.chars ++ t) = readLines (fuel + 1) p t := by
  cases l with
  | blank => exact readLines_congr (skipLines_break t) (fuel + 1) p
  | comment text =>
    have hchars : (Line.comment text).chars ++ t = '#' :: (text ++ '\n' :: t) := by
      simp [Line.chars]
    rw [hchars, readLines_congr (skipLines_comment h t)]
  | header table name => cases hquiet
  | entry key texts => cases hquiet

/-- Lines are read one after the other when it is known what each of those does that are neither blank nor
comments. -/
theorem readLines_foldlM {f : Progress → Line → Except ReadError Progress} {ls : List Line}
    (h : ∀ l ∈ ls, l.Shaped)
    (hf : ∀ l ∈ loud ls, ∀ fuel p t,
      readLines (fuel + 1) p (l.chars ++ t) = (f p l).bind fun p => readLines fuel p t)
    {fuel : Nat} (hfuel : ls.length < fuel) (p : Progress) :
    readLines fuel p (linesChars ls) = (loud ls).foldlM f p := by
  induction ls generalizing fuel p with
  | nil =>
    obtain ⟨fuel, rfl⟩ : ∃ n, fuel = n + 1 := ⟨fuel - 1, by omega⟩
    show readLines (fuel + 1) p [] = _
    rw [readLines, skipLines]
    rfl
  | cons l ls ih =>
    obtain ⟨fuel, rfl⟩ : ∃ n, fuel = n + 1 := ⟨fuel - 1, by omega⟩
    rw [List.length_cons] at hfuel
    obtain ⟨hl, hrest⟩ := List.forall_mem_cons.mp h
    rw [linesChars_cons]
    cases hquiet : l.isQuiet with
    | true =>
      have hskip : loud (l :: ls) = loud ls := List.filter_cons_of_neg (by simp [hquiet])
      rw [hskip] at hf ⊢
      rw [readLines_quiet hl hquiet]
      exact ih hrest hf (by omega) p
    | false =>
      have hkeep : loud (l :: ls) = l :: loud ls := List.filter_cons_of_pos (by simp [hquiet])
      rw [hkeep] at hf ⊢
      obtain ⟨hfirst, hothers⟩ := List.forall_mem_cons.mp hf
      rw [hfirst, List.foldlM_cons]
      exact congrArg (Except.bind _) (funext fun p => ih hrest hothers (Nat.lt_of_succ_lt_succ hfuel) p)

/-- Blank lines and comments have no effect. -/
theorem foldlM_loud (ls : List Line) (p : Progress) :
    (loud ls).foldlM Line.effect p = ls.foldlM Line.effect p := by
  induction ls generalizing p with
  | nil => rfl
  | cons l ls ih =>
    rw [List.foldlM_cons]
    cases l with
    | blank => exact ih p
    | comment text => exact ih p
    | header table name => exact congrArg _ (funext ih)
    | entry key texts => exact congrArg _ (funext ih)

/-- What is malformed at some step of a run is malformed as a whole. -/
theorem foldlM_orMalformed {α β : Type} (f : β → α → Option β) (b : β) (l : List α) :
    l.foldlM (fun b a => orMalformed (f b a)) b = orMalformed (l.foldlM f b) := by
  induction l generalizing b with
  | nil => rfl
  | cons a l ih =>
    rw [List.foldlM_cons, List.foldlM_cons]
    cases f b a with
    | none => rfl
    | some b => exact ih b

/-- **Reading the lines of a document** has their effects, one after the other. -/
theorem readLines_chars {ls : List Line} (h : ∀ l ∈ ls, l.Fine) {fuel : Nat} (hfuel : ls.length < fuel)
    (p : Progress) : readLines fuel p (linesChars ls) = orMalformed (ls.foldlM Line.effect p) := by
  rw [← foldlM_loud, ← foldlM_orMalformed]
  refine readLines_foldlM (fun l hl => (h l hl).shaped) (fun l hl fuel p t => ?_) hfuel p
  obtain ⟨hl, hloud⟩ := List.mem_filter.mp hl
  have hfine := h l hl
  cases l with
  | blank => cases hloud
  | comment text => cases hloud
  | header table name => exact readLines_header hfine fuel p t
  | entry key texts => exact readLines_entry hfine fuel p t

/-! ## Carriage returns -/

theorem blankReturns_cons {c : Char} (hc : c ≠ '\r') (t : List Char) :
    blankReturns (c :: t) = c :: blankReturns t := by
  rw [blankReturns]
  exact fun _ h => absurd h hc

/-- Without carriage returns nothing changes. -/
theorem blankReturns_append {cs : List Char} (h : '\r' ∉ cs) (t : List Char) :
    blankReturns (cs ++ t) = cs ++ blankReturns t := by
  induction cs with
  | nil => rfl
  | cons c cs ih =>
    have hc : c ≠ '\r' := fun heq => h (by rw [heq]; exact List.mem_cons_self)
    rw [List.cons_append, blankReturns_cons hc, ih fun hmem => h (List.mem_cons_of_mem _ hmem)]
    rfl

/-- The end of a line separates what stands before it from what stands behind it. -/
theorem blankReturns_line {text : List Char} (h : '\n' ∉ text) :
    ∃ text', '\n' ∉ text' ∧ ∀ t, blankReturns (text ++ '\n' :: t) = text' ++ '\n' :: blankReturns t := by
  induction text with
  | nil => exact ⟨[], List.not_mem_nil, fun t => blankReturns_cons (by decide) t⟩
  | cons c text ih =>
    obtain ⟨text', htext', heq⟩ := ih fun hmem => h (List.mem_cons_of_mem _ hmem)
    have hc : c ≠ '\n' := fun heq => h (by rw [heq]; exact List.mem_cons_self)
    have hcons : ∀ d : Char, d ≠ '\n' → '\n' ∉ d :: text' := fun d hd hmem =>
      (List.mem_cons.mp hmem).elim (fun h => hd h.symm) htext'
    by_cases hreturn : c = '\r'
    · subst hreturn
      cases text with
      | nil => exact ⟨[' '], by decide, fun t => by rw [List.cons_append, List.nil_append, blankReturns]; rfl⟩
      | cons d text =>
        have hd : d ≠ '\n' := fun heq => h (by rw [heq]; simp)
        refine ⟨'\r' :: text', hcons _ hc, fun t => ?_⟩
        rw [List.cons_append, List.cons_append, blankReturns, ← List.cons_append, heq t]
        · rfl
        · exact fun _ _ h => hd (List.head_eq_of_cons_eq h)
    · refine ⟨c :: text', hcons c hc, fun t => ?_⟩
      rw [List.cons_append, blankReturns_cons hreturn, heq t]
      rfl

/-- A character that neither stands for itself nor in an escape is not written between marks. -/
theorem notMem_written {c : Char} (hplain : basicChar c ≠ [c]) (hescape : escapeChar? c = none)
    (hcode : c ≠ 'u' ∧ (hexNumber? [c]).isSome = false) (p : List Char) : c ∉ written p := by
  intro hmem
  obtain ⟨d, _, hd⟩ := List.mem_flatMap.mp hmem
  have hspelling := basicChar_spelling d
  generalize hw : basicChar d = w at hspelling hd
  cases hspelling with
  | plain _ _ _ _ =>
    obtain rfl := List.mem_singleton.mp hd
    exact hplain hw
  | short e hresolved _ _ _ =>
    obtain rfl | rfl := List.mem_pair.mp hd
    · cases hescape
    · rw [hescape] at hresolved
      cases hresolved
  | coded _ hcoded =>
    obtain rfl | hd := List.mem_cons.mp hd
    · cases hescape
    obtain rfl | hdigit := List.mem_cons.mp hd
    · exact hcode.1 rfl
    rw [← (codeFacts hcoded).digits] at hdigit
    rw [List.mem_takeWhile_imp hdigit] at hcode
    exact absurd hcode.2 (by decide)

/-- Neither a carriage return nor a line break is written between marks. -/
theorem notMem_quoted {c : Char} (hc : c = '\r' ∨ c = '\n') (p : List Char) : c ∉ quoted p := by
  have hwritten : c ∉ written p := by
    obtain rfl | rfl := hc
    · exact notMem_written (by decide) rfl (by decide) p
    · exact notMem_written (by decide) rfl (by decide) p
  obtain rfl | rfl := hc
  · simpa [quoted] using hwritten
  · simpa [quoted] using hwritten

theorem notMem_keyChars {c : Char} (hc : c = '\r' ∨ c = '\n') (name : List Char) : c ∉ keyChars name := by
  unfold keyChars
  split
  · rename_i hbare
    rw [Bool.and_eq_true, List.all_eq_true] at hbare
    intro hmem
    obtain rfl | rfl := hc
    · exact absurd (hbare.2 _ hmem) (by decide)
    · exact absurd (hbare.2 _ hmem) (by decide)
  · exact notMem_quoted hc name

theorem return_notMem_itemsText (ps : List (List Char)) : '\r' ∉ itemsText ps := by
  induction ps with
  | nil => exact List.not_mem_nil
  | cons p ps ih =>
    cases ps with
    | nil => exact notMem_quoted (.inl rfl) p
    | cons q ps =>
      rw [itemsText]
      simp only [List.mem_append, List.mem_cons, not_or]
      exact ⟨notMem_quoted (.inl rfl) p, by decide, by decide, ih⟩

/-- Only comments hold carriage returns. -/
theorem return_notMem_chars {l : Line} (h : l.Shaped) (hloud : l.isQuiet = false) : '\r' ∉ l.chars := by
  have hbare {cs : List Char} (h : ∀ c ∈ cs, isBare c) : '\r' ∉ cs := fun hmem => absurd (h _ hmem) (by decide)
  cases l with
  | blank => cases hloud
  | comment text => cases hloud
  | header table name => simp [Line.chars, hbare h.2, notMem_keyChars (.inl rfl) name]
  | entry key texts => simp [Line.chars, hbare h.2, return_notMem_itemsText texts]

/-- A document whose carriage returns are blanked is a document of lines that differs in comments only. -/
theorem blankReturns_lines {ls : List Line} (h : ∀ l ∈ ls, l.Shaped) :
    ∃ ls' : List Line, blankReturns (linesChars ls) = linesChars ls' ∧ (∀ l ∈ ls', l.Shaped) ∧
      loud ls' = loud ls := by
  induction ls with
  | nil => exact ⟨[], rfl, fun l hl => (nomatch hl), rfl⟩
  | cons l ls ih =>
    obtain ⟨hl, hrest⟩ := List.forall_mem_cons.mp h
    obtain ⟨ls', hchars, hshaped, hloud⟩ := ih hrest
    have hsame (hreturn : '\r' ∉ l.chars) : ∃ ls'' : List Line,
        blankReturns (linesChars (l :: ls)) = linesChars ls'' ∧ (∀ l ∈ ls'', l.Shaped) ∧
          loud ls'' = loud (l :: ls) := by
      refine ⟨l :: ls', ?_, List.forall_mem_cons.mpr ⟨hl, hshaped⟩, ?_⟩
      · rw [linesChars_cons, blankReturns_append hreturn, hchars, linesChars_cons]
      · rw [loud, loud, List.filter_cons, List.filter_cons]
        unfold loud at hloud
        rw [hloud]
    cases l with
    | blank => exact hsame (by decide)
    | comment text =>
      obtain ⟨text', htext', heq⟩ := blankReturns_line hl
      refine ⟨.comment text' :: ls', ?_, List.forall_mem_cons.mpr ⟨htext', hshaped⟩, hloud⟩
      have hwritten : ∀ text, (Line.comment text).chars ++ linesChars ls =
          '#' :: (text ++ '\n' :: linesChars ls) := fun text => by simp [Line.chars]
      rw [linesChars_cons, hwritten, blankReturns_cons (by decide), heq, hchars, linesChars_cons]
      simp [Line.chars]
    | header table name => exact hsame (return_notMem_chars hl rfl)
    | entry key texts => exact hsame (return_notMem_chars hl rfl)

/-- A line has at least the character that ends it. -/
theorem length_le_linesChars (ls : List Line) : ls.length ≤ (linesChars ls).length := by
  induction ls with
  | nil => exact Nat.le_refl 0
  | cons l ls ih =>
    have hl : 1 ≤ l.chars.length := by
      cases l with
      | entry key texts => simp only [Line.chars, List.length_append, List.length_cons]; omega
      | _ => simp [Line.chars]
    rw [linesChars, List.flatMap_cons, List.length_append, List.length_cons]
    rw [linesChars] at ih
    omega

/-- Which names and texts there are is settled by the lines that are neither blank nor comments. -/
theorem within_of_loud {names texts : List Char → Prop} {ls : List Line} (h : ∀ l ∈ ls, l.Shaped)
    (hloud : ∀ l ∈ loud ls, l.Within names texts) : ∀ l ∈ ls, l.Within names texts := by
  intro l hl
  cases hquiet : l.isQuiet with
  | true =>
    cases l with
    | blank => trivial
    | comment text => exact h _ hl
    | header table name => cases hquiet
    | entry key ps => cases hquiet
  | false => exact hloud l (List.mem_filter.mpr ⟨hl, by rw [hquiet]; rfl⟩)

/-- **A document of lines** is read as the effects of its lines on no tables at all. -/
theorem documentTables_chars {ls : List Line} (h : ∀ l ∈ ls, l.Fine) {text : String}
    (htext : text.toList = linesChars ls) :
    documentTables text = orMalformed ((ls.foldlM Line.effect .start).map (·.entries)) := by
  obtain ⟨ls', hchars, hshaped, hloud⟩ := blankReturns_lines fun l hl => (h l hl).shaped
  have hlength := length_le_linesChars ls'
  have hfine : ∀ l ∈ ls', l.Fine :=
    within_of_loud hshaped fun l hl => h l (List.mem_of_mem_filter (hloud ▸ hl))
  unfold documentTables
  dsimp only
  rw [htext, hchars, readLines_chars hfine (by omega), ← foldlM_loud ls', hloud, foldlM_loud]
  cases ls.foldlM Line.effect .start <;> rfl

end WordLint.Toml
