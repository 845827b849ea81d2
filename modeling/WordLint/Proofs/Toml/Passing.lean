import Mathlib
import WordLint.Proofs.Text.Characters
import WordLint.Proofs.Toml.Contracts

/-!
# The first pass over documents of lines

The first pass over a document of lines finds nothing to refuse. It stands outside of everything where a line
begins (`Pass.atLine`), and again behind the end of the line, whatever stands in its header or its array: a text
between marks is passed up to its closing mark, because a mark inside of it is escaped (`Pass.run_quoted`), and
three marks never stand together.

**The law** (`readTables_of_lines`): so a document of lines is read as what its lines make of it, be it tables, a
malformed text or a breakdown. In particular the reader does what is asked of readers, for the names and texts that
it keeps (`readsLines_read`).
-/

namespace WordLint.Toml

namespace Pass

variable {passed base : List Char} {arrays : Int} {header : Bool} {c d : Char}

/-! ## Places in a line -/

/-- Where a line begins. -/
def atLine (passed : List Char) : Pass :=
  { start with passed }

/-- In a line, outside of its key. -/
def inLine (passed : List Char) (mark : Option Char) (arrays : Int) (header : Bool) : Pass :=
  { start with passed, mark, arrays, header, fresh := false }

/-- In the key of a line, or behind it. -/
def inKey (passed : List Char) (key : KeyPlace) : Pass :=
  { start with passed, key, fresh := false }

theorem run_of_step {p q : Pass} {rest : List Char} (h : p.step c rest = .ok q) : p.run (c :: rest) = q.run rest := by
  rw [run, h]
  rfl

/-! ## Characters outside of strings -/

/-- A character that is neither a mark nor a sign of a comment, nor a bracket, nor the end of a line. -/
def IsPlain (c : Char) : Prop :=
  c ∉ ['"', '\'', '#', '[', ']', '\n', '\r']

instance (c : Char) : Decidable (IsPlain c) :=
  inferInstanceAs (Decidable (_ ∉ _))

theorem isPlain_of_isBare (h : isBare c = true) : IsPlain c := by
  intro hmem
  simp only [List.mem_cons, List.not_mem_nil, or_false] at hmem
  obtain rfl | rfl | rfl | rfl | rfl | rfl | rfl := hmem
  all_goals exact absurd h (by decide)

theorem step_plain (hc : IsPlain c) (rest : List Char) :
    (inLine passed none arrays header).step c rest = .ok (inLine (c :: passed) none arrays header) := by
  simp only [IsPlain, List.mem_cons, List.not_mem_nil, or_false, not_or] at hc
  simp [step, passOutside, passMark, passBracket, passInLine, inLine, start, leave, hc]

/-- The end of a line. -/
theorem step_break (rest : List Char) :
    (inLine passed none 0 false).step '\n' rest = .ok (atLine ('\n' :: passed)) := rfl

/-- The end of a header. -/
theorem step_closeHeader (rest : List Char) :
    (inLine passed none arrays true).step ']' rest = .ok (inLine (']' :: passed) none arrays false) := rfl

theorem step_openArray (rest : List Char) :
    (inLine passed none arrays false).step '[' rest = .ok (inLine ('[' :: passed) none (arrays + 1) false) := rfl

theorem step_closeArray (rest : List Char) :
    (inLine passed none arrays false).step ']' rest = .ok (inLine (']' :: passed) none (arrays - 1) false) := rfl

theorem run_bare {cs : List Char} (h : ∀ c ∈ cs, isBare c) (t : List Char) :
    (inLine passed none arrays header).run (cs ++ t) = (inLine (cs.reverse ++ passed) none arrays header).run t := by
  induction cs generalizing passed with
  | nil => rfl
  | cons c cs ih =>
    obtain ⟨hc, hcs⟩ := List.forall_mem_cons.mp h
    rw [List.cons_append, run_of_step (step_plain (isPlain_of_isBare hc) _), ih hcs, List.reverse_cons,
      List.append_assoc]
    rfl

/-! ## Strings -/

theorem runLength_backslash (v base : List Char) :
    (runLength '\\' (v.reverse ++ '"' :: base) % 2 == 0) = !openEscape v := by
  have hrun : runLength '\\' (v.reverse ++ '"' :: base) = (v.reverse.takeWhile (· == '\\')).length := by
    rw [runLength, List.takeWhile_append]
    split <;> simp_all
  rw [hrun, trailing_backslashes]

/-- An open escape ends in a backslash. -/
theorem exists_of_openEscape {v : List Char} (h : openEscape v = true) : ∃ w, v = w ++ ['\\'] := by
  rcases List.eq_nil_or_concat' v with rfl | ⟨w, d, rfl⟩
  · cases h
  · refine ⟨w, ?_⟩
    rw [openEscape, List.foldl_append] at h
    have hd : d = '\\' := by
      have := (Bool.and_eq_true _ _ ▸ h : _ ∧ _).2
      simpa using this
    rw [hd]

/-- A character of a text between marks, an escaped mark apart. -/
theorem step_inside (hmark : c ≠ '"') (hbreak : c ≠ '\n') (hreturn : c ≠ '\r') (rest : List Char) :
    (inLine passed (some '"') arrays header).step c rest = .ok (inLine (c :: passed) (some '"') arrays header) := by
  simp [step, passOutside, passMark, passBracket, passInLine, isPlain, inLine, start, leave, hmark, hbreak, hreturn]

/-- A quotation mark, given what it does to the string around. -/
theorem step_mark {mark mark' : Option Char} {rest : List Char}
    (h : (inLine passed mark arrays header).passMark '"' (passed ++ ('"' :: rest).reverse) =
      inLine passed mark' arrays header) :
    (inLine passed mark arrays header).step '"' rest = .ok (inLine ('"' :: passed) mark' arrays header) := by
  have hmark : (inLine passed mark arrays header).passMark '"'
      ((inLine passed mark arrays header).passed ++ ('"' :: rest).reverse) = inLine passed mark' arrays header := h
  show (inLine passed mark arrays header).passOutside '"' rest = _
  unfold passOutside
  dsimp only
  rw [hmark]
  rfl

/-- A mark opens a string. -/
theorem passMark_open (hmark : d ≠ '"') (hescape : d ≠ '\\') (more : List Char) :
    (inLine passed none arrays header).passMark '"' (d :: more) = inLine passed (some '"') arrays header := by
  simp [passMark, runLength, turn, inLine, start, hmark, hescape]

/-- An escaped mark does nothing. -/
theorem passMark_escaped {v : List Char} (hv : openEscape v = true) (more : List Char) :
    (inLine passed (some '"') arrays header).passMark '"' (v.reverse ++ '"' :: more) =
      inLine passed (some '"') arrays header := by
  have hodd := runLength_backslash v more
  obtain ⟨w, rfl⟩ := exists_of_openEscape hv
  have hmarks : runLength '"' (((w ++ ['\\']).reverse ++ '"' :: more).take 2) = 0 := by
    simp [runLength]
  rw [hv, Bool.not_true, beq_eq_false_iff_ne] at hodd
  have hone : runLength '\\' ((w ++ ['\\']).reverse ++ '"' :: more) % 2 = 1 := by omega
  unfold passMark
  simp only [hmarks, List.drop_zero, hone]
  rfl

/-- The mark behind a text closes the string. -/
theorem passMark_close (p : List Char) (hmark : d ≠ '"') (more : List Char) :
    (inLine passed (some '"') arrays header).passMark '"' ((written p).reverse ++ '"' :: d :: more) =
      inLine passed none arrays header := by
  have heven := runLength_backslash (written p) (d :: more)
  rw [openEscape_written, Bool.not_false, beq_iff_eq] at heven
  have hmarks : runLength '"' (((written p).reverse ++ '"' :: d :: more).take 2) = 0 ∨
      runLength '"' (((written p).reverse ++ '"' :: d :: more).take 2) = 1 := by
    rcases List.eq_nil_or_concat' (written p) with hnil | ⟨v, e, hv⟩
    · rw [hnil]
      exact .inr (by simp [runLength, hmark])
    · rw [hv]
      by_cases he : e = '"'
      · -- a mark at the end is an escaped one
        obtain ⟨w, rfl⟩ := exists_of_openEscape (openEscape_of_mark (z := []) (he ▸ hv))
        exact .inr (by simp [runLength, he])
      · exact .inl (by simp [runLength, he])
  unfold passMark
  rcases hmarks with hmarks | hmarks
  · simp only [hmarks, List.drop_zero, heven]
    rfl
  · simp only [hmarks]
    rfl

/-- What is left of a text between marks, and the mark that closes it. -/
theorem run_inside {p v w : List Char} (hd : d ≠ '"') (h : written p = v ++ w) (t : List Char) :
    (inLine (v.reverse ++ '"' :: d :: base) (some '"') arrays header).run (w ++ '"' :: t) =
      (inLine ('"' :: ((written p).reverse ++ '"' :: d :: base)) none arrays header).run t := by
  induction w generalizing v with
  | nil =>
    rw [List.append_nil] at h
    rw [← h]
    refine run_of_step (step_mark ?_)
    rw [List.append_assoc]
    exact passMark_close p hd _
  | cons c w ih =>
    have hmem : c ∈ quoted p := by simp [quoted, h]
    have hstep : (inLine (v.reverse ++ '"' :: d :: base) (some '"') arrays header).step c (w ++ '"' :: t) =
        .ok (inLine (c :: (v.reverse ++ '"' :: d :: base)) (some '"') arrays header) := by
      by_cases hc : c = '"'
      · subst hc
        refine step_mark ?_
        rw [List.append_assoc]
        exact passMark_escaped (openEscape_of_mark h) _
      · refine step_inside hc ?_ ?_ _
        · rintro rfl
          exact notMem_quoted (.inr rfl) p hmem
        · rintro rfl
          exact notMem_quoted (.inl rfl) p hmem
    have hrest := ih (v := v ++ [c]) (by rw [h, List.append_assoc]; rfl)
    rw [List.reverse_append, List.reverse_singleton, List.singleton_append, List.cons_append] at hrest
    rw [List.cons_append, run_of_step hstep, hrest]

/-- **A text between marks** is passed as a whole. -/
theorem run_quoted (hmark : d ≠ '"') (hescape : d ≠ '\\') (p t : List Char) :
    (inLine (d :: base) none arrays header).run (quoted p ++ t) =
      (inLine ((quoted p).reverse ++ d :: base) none arrays header).run t := by
  have hinside : (inLine ([].reverse ++ '"' :: d :: base) (some '"') arrays header).run (written p ++ '"' :: t) =
      (inLine ('"' :: ((written p).reverse ++ '"' :: d :: base)) none arrays header).run t :=
    run_inside hmark rfl t
  rw [quoted_append, run_of_step (step_mark (passMark_open hmark hescape _))]
  refine hinside.trans ?_
  simp [quoted]

/-- The name of a table, behind the point before it. -/
theorem run_keyChars (name t : List Char) :
    ∃ passed', (inLine ('.' :: base) none arrays header).run (keyChars name ++ t) =
      (inLine passed' none arrays header).run t := by
  unfold keyChars
  split
  · rename_i hbare
    rw [Bool.and_eq_true, List.all_eq_true] at hbare
    exact ⟨_, run_bare hbare.2 t⟩
  · exact ⟨_, run_quoted (by decide) (by decide) name t⟩

/-- The texts of an array. -/
theorem run_itemsText (hmark : d ≠ '"') (hescape : d ≠ '\\') (ps : List (List Char)) (t : List Char) :
    ∃ passed', (inLine (d :: base) none arrays header).run (itemsText ps ++ t) =
      (inLine passed' none arrays header).run t := by
  induction ps generalizing d base with
  | nil => exact ⟨d :: base, rfl⟩
  | cons p ps ih =>
    cases ps with
    | nil => exact ⟨_, run_quoted hmark hescape p t⟩
    | cons q ps =>
      obtain ⟨passed', hrest⟩ : ∃ passed', (inLine (' ' :: ',' :: ((quoted p).reverse ++ d :: base)) none arrays
          header).run (itemsText (q :: ps) ++ t) = (inLine passed' none arrays header).run t :=
        ih (by decide) (by decide)
      refine ⟨passed', ?_⟩
      rw [itemsText, List.append_assoc, run_quoted hmark hescape, List.cons_append, List.cons_append,
        run_of_step (step_plain (by decide) _), run_of_step (step_plain (by decide) _),
        hrest]

/-! ## Keys -/

/-- A sign of a key is no blank, point or equal sign. -/
theorem bare_facts (h : isBare c = true) :
    (Text.isLetter c || Text.isNumber c || c = '_' || c = '-') = true ∧ Text.isBlank c = false ∧ c ≠ '.' ∧ c ≠ '=' := by
  have hascii : c.toNat < 128 := by
    simp only [isBare, Bool.or_eq_true, beq_iff_eq] at h
    obtain (h | rfl) | rfl := h
    · exact Text.toNat_lt_of_isAlphanum h
    · decide
    · decide
  revert h
  exact Text.forall_ascii (P := fun c => isBare c = true →
    (Text.isLetter c || Text.isNumber c || c = '_' || c = '-') = true ∧ Text.isBlank c = false ∧ c ≠ '.' ∧ c ≠ '=')
    (by decide +kernel) hascii

/-- A key begins where a line does. -/
theorem step_key (hc : isBare c = true) (rest : List Char) :
    (atLine passed).step c rest = .ok (inKey (c :: passed) .inside) := by
  obtain ⟨hspace, -, -, -⟩ := isBare_sign hc
  have hplain := isPlain_of_isBare hc
  simp only [IsPlain, List.mem_cons, List.not_mem_nil, or_false, not_or] at hplain
  simp [step, passOutside, passMark, passBracket, passInLine, atLine, inKey, start, leave, hplain, hspace,
    (bare_facts hc).2.2.2]

theorem step_inKey (hc : isBare c = true) (rest : List Char) :
    (inKey passed .inside).step c rest = .ok (inKey (c :: passed) .inside) := by
  obtain ⟨hletter, hblank, hpoint, -⟩ := bare_facts hc
  have hplain := isPlain_of_isBare hc
  simp only [IsPlain, List.mem_cons, List.not_mem_nil, or_false, not_or] at hplain
  have hkey : (inKey passed .inside).passKey c rest = .ok (inKey passed .inside) := by
    unfold passKey
    rw [if_neg hplain.2.2.2.2.2.1]
    show (if Text.isBlank c then _ else _) = _
    rw [if_neg (by simp [hblank]), if_neg hpoint, if_pos hletter]
  unfold step
  simp only [hplain, hkey, decide_false, Bool.false_and]
  rfl

theorem run_inKey {cs : List Char} (h : ∀ c ∈ cs, isBare c) (t : List Char) :
    (inKey passed .inside).run (cs ++ t) = (inKey (cs.reverse ++ passed) .inside).run t := by
  induction cs generalizing passed with
  | nil => rfl
  | cons c cs ih =>
    obtain ⟨hc, hcs⟩ := List.forall_mem_cons.mp h
    rw [List.cons_append, run_of_step (step_inKey hc _), ih hcs, List.reverse_cons, List.append_assoc]
    rfl

/-- The end of a key, and the sign behind it. -/
theorem run_equals (t : List Char) :
    (inKey passed .inside).run (' ' :: '=' :: t) = (inLine ('=' :: ' ' :: passed) none 0 false).run t := by
  have hend : (inKey passed .inside).step ' ' ('=' :: t) = .ok (inKey (' ' :: passed) .behind) := rfl
  have hsign : (inKey (' ' :: passed) .behind).step '=' t = .ok (inLine ('=' :: ' ' :: passed) none 0 false) := rfl
  rw [run_of_step hend, run_of_step hsign]

/-! ## Lines -/

/-- A comment, up to the end of its line. -/
theorem run_comment {text : List Char} (h : '\n' ∉ text) (passed t : List Char) :
    ∃ passed', ({ atLine passed with comment := true } : Pass).run (text ++ '\n' :: t) = (atLine passed').run t := by
  induction text generalizing passed with
  | nil => exact ⟨'\n' :: passed, run_of_step rfl⟩
  | cons c text ih =>
    have hc : c ≠ '\n' := fun heq => h (heq ▸ List.mem_cons_self)
    have hstep (rest : List Char) : ({ atLine passed with comment := true } : Pass).step c rest =
        .ok { atLine (' ' :: passed) with comment := true } := by
      simp [step, hc, leave, atLine]
    obtain ⟨passed', hrest⟩ := ih (fun hmem => h (List.mem_cons_of_mem _ hmem)) (' ' :: passed)
    exact ⟨passed', by rw [List.cons_append, run_of_step (hstep _), hrest]⟩

/-- A header begins where a line does. -/
theorem step_openHeader (hc : c ≠ '[') (rest : List Char) :
    (atLine passed).step '[' (c :: rest) = .ok (inLine ('[' :: passed) none 0 true) := by
  simp [step, passOutside, passMark, passBracket, isPlain, passInLine, isSpace, atLine, inLine, start, leave, hc]

/-- The end of a header and its line. -/
theorem run_closeHeader (t : List Char) :
    (inLine passed none 0 true).run (']' :: '\n' :: t) = (atLine ('\n' :: ']' :: passed)).run t := by
  rw [run_of_step (step_closeHeader _), run_of_step (step_break _)]

/-- The line of a header. -/
theorem run_header {table name : List Char} (h : (Line.header table name).Shaped) (passed t : List Char) :
    ∃ passed', (atLine passed).run ((Line.header table name).chars ++ t) = (atLine passed').run t := by
  obtain ⟨hne, htable⟩ := h
  obtain ⟨c, cs, rfl⟩ := List.exists_cons_of_ne_nil hne
  have hbracket := (isBare_sign (htable c List.mem_cons_self)).2.2.2
  obtain ⟨passed', hname⟩ : ∃ passed', (inLine ('.' :: ((c :: cs).reverse ++ '[' :: passed)) none 0 true).run
      (keyChars name ++ ']' :: '\n' :: t) = (inLine passed' none 0 true).run (']' :: '\n' :: t) :=
    run_keyChars name _
  have hchars : (Line.header (c :: cs) name).chars ++ t =
      '[' :: (c :: cs ++ '.' :: (keyChars name ++ ']' :: '\n' :: t)) := by
    simp [Line.chars]
  refine ⟨'\n' :: ']' :: passed', ?_⟩
  rw [hchars, List.cons_append, run_of_step (step_openHeader hbracket _), ← List.cons_append, run_bare htable,
    run_of_step (step_plain (by decide) _), hname, run_closeHeader]

/-- The line of a key with an array of texts. -/
theorem run_entry {key : List Char} {texts : List (List Char)} (h : (Line.entry key texts).Shaped)
    (passed t : List Char) :
    ∃ passed', (atLine passed).run ((Line.entry key texts).chars ++ t) = (atLine passed').run t := by
  obtain ⟨hne, hkey⟩ := h
  obtain ⟨c, cs, rfl⟩ := List.exists_cons_of_ne_nil hne
  obtain ⟨hc, hcs⟩ := List.forall_mem_cons.mp hkey
  obtain ⟨passed', htexts⟩ : ∃ passed', (inLine ('[' :: ' ' :: '=' :: ' ' :: (cs.reverse ++ c :: passed)) none 1
      false).run (itemsText texts ++ ']' :: '\n' :: t) = (inLine passed' none 1 false).run (']' :: '\n' :: t) :=
    run_itemsText (by decide) (by decide) texts _
  have hchars : (Line.entry (c :: cs) texts).chars ++ t =
      c :: (cs ++ ' ' :: '=' :: ' ' :: '[' :: (itemsText texts ++ ']' :: '\n' :: t)) := by
    simp [Line.chars]
  refine ⟨'\n' :: ']' :: passed', ?_⟩
  rw [hchars, run_of_step (step_key hc _), run_inKey hcs, run_equals, run_of_step (step_plain (by decide) _),
    run_of_step (step_openArray _)]
  refine htexts.trans ?_
  rw [run_of_step (step_closeArray _)]
  exact run_of_step (step_break _)

/-- **A line of a document** leads from where it begins to where the next line does. -/
theorem run_chars {l : Line} (h : l.Shaped) (passed t : List Char) :
    ∃ passed', (atLine passed).run (l.chars ++ t) = (atLine passed').run t := by
  cases l with
  | blank => exact ⟨'\n' :: passed, run_of_step rfl⟩
  | comment text =>
    obtain ⟨passed', hrest⟩ := run_comment h (' ' :: passed) t
    have hstep (rest : List Char) :
        (atLine passed).step '#' rest = .ok { atLine (' ' :: passed) with comment := true } := rfl
    refine ⟨passed', ?_⟩
    rw [Line.chars, List.cons_append, run_of_step (hstep _), List.append_assoc]
    exact hrest
  | header table name => exact run_header h passed t
  | entry key texts => exact run_entry h passed t

/-- The first pass goes over all lines of a document. -/
theorem run_lines {ls : List Line} (h : ∀ l ∈ ls, l.Shaped) (passed : List Char) :
    ∃ passed', (atLine passed).run (linesChars ls) = .ok (atLine passed') := by
  induction ls generalizing passed with
  | nil => exact ⟨passed, rfl⟩
  | cons l ls ih =>
    obtain ⟨hl, hrest⟩ := List.forall_mem_cons.mp h
    obtain ⟨next, hline⟩ := run_chars hl passed (linesChars ls)
    rw [linesChars_cons, hline]
    exact ih hrest next

end Pass

/-! ## Reading -/

/-- A text that has been passed is read as the tables that it holds. -/
theorem readTables_of_run {text : String} {p : Pass} (h : Pass.start.run text.toList = .ok p) :
    readTables text = documentTables text := by
  unfold readTables
  rw [h]
  rfl

/-- And as the document that the tables make up. -/
theorem read_of_pass {text : String} {entries : List (Value × Value)}
    (h : (documentTables text).map toPairs = .ok entries) (hpass : (Pass.start.run text.toList).isOk = true) :
    read text = .ok entries := by
  cases hrun : Pass.start.run text.toList with
  | error e =>
    rw [hrun] at hpass
    cases hpass
  | ok p =>
    unfold read
    rw [readTables_of_run hrun, h]

/-- **A document of lines** is read as what its lines make of it. -/
theorem readTables_of_lines {ls : List Line} (h : ∀ l ∈ ls, l.Shaped) {text : String}
    (htext : text.toList = linesChars ls) : readTables text = documentTables text := by
  obtain ⟨passed', hrun⟩ := Pass.run_lines h []
  exact readTables_of_run (htext ▸ hrun)

/-- **The reader of the library** gives lines their effects, as far as it keeps names and reads texts back. -/
theorem readsLines_read : ReadsLines read NameKept ReadsBack := by
  intro ls text h htext
  unfold read
  rw [readTables_of_lines (fun l hl => (h l hl).shaped) htext, documentTables_chars h htext]
  cases ls.foldlM Line.effect .start <;> rfl

end WordLint.Toml
