import Mathlib
import WordLint.Proofs.Toml.Lines
import WordLint.Proofs.Toml.Passing

/-!
# Documents that differ in comments

A line of a document is read without a look at the lines behind it, whatever stands in its header or its array:
reading a line and what follows comes to reading the line on its own, and then going on behind it (`readLines_line`).
That needs no line to be read back as what it was written for. A header may end early, and an array may have other
items than texts or none at all; but where the line stops to make sense, whether the reader breaks down over it, and
what is made of it, is settled by its own characters. Blank lines and comments are passed over.

**The law** (`read_of_loud`): documents of lines whose headers and keys are the same in the same order are read
alike, be it that both are read as the same entries, or that both are refused or break the reader down.
-/

namespace WordLint.Toml

/-! ## Arrays -/

/-- What an array of texts is read as. -/
def arrayValue (ps : List (List Char)) : Except ReadError Value := do
  let items ← readItems ((itemsText ps).length + 2) none (← readPieces (itemsText ps))
  return .list items

/-- **An array of texts** has a value that depends on its texts only, or none, and it ends where it is closed. -/
theorem readValue_array (ps : List (List Char)) (strict : Bool) (t : List Char) :
    readValue (extent ('[' :: (itemsText ps ++ ']' :: t)) + 1) strict ('[' :: (itemsText ps ++ ']' :: t)) =
      (arrayValue ps).map (·, t) := by
  unfold arrayValue
  rw [extent_itemsText, readValue, arrayText?_itemsText]
  show (do
    let items ← readItems ((itemsText ps).length + 2) none (← readPieces (itemsText ps))
    return (Value.list items, t)) = _
  cases readPieces (itemsText ps) with
  | error e => rfl
  | ok pieces =>
    show (do
      let items ← readItems ((itemsText ps).length + 2) none pieces
      return (Value.list items, t)) = Except.map _ (do
      let items ← readItems ((itemsText ps).length + 2) none pieces
      return Value.list items)
    cases readItems ((itemsText ps).length + 2) none pieces <;> rfl

/-! ## Headers -/

/-- A header ends on its line or nowhere, whatever stands behind the line. -/
theorem headerText?_line {line : List Char} (h : '\n' ∉ line) (mark : Option Char) :
    (∀ t, headerText? mark (line ++ '\n' :: t) = none) ∨
      ∃ text rest, '\n' ∉ rest ∧ ∀ t, headerText? mark (line ++ '\n' :: t) = some (text, rest ++ '\n' :: t) := by
  induction line generalizing mark with
  | nil => exact .inl fun t => rfl
  | cons c line ih =>
    have hc : c ≠ '\n' := fun heq => h (heq ▸ List.mem_cons_self)
    have hline : '\n' ∉ line := fun hmem => h (List.mem_cons_of_mem _ hmem)
    by_cases hend : (c = ']' && mark.isNone) = true
    · refine .inr ⟨[], line, hline, fun t => ?_⟩
      rw [List.cons_append, headerText?.eq_def]
      dsimp only
      rw [if_neg hc, if_pos hend]
    · have hnext : ∃ mark', ∀ t, headerText? mark (c :: line ++ '\n' :: t) =
          (headerText? mark' (line ++ '\n' :: t)).map fun found => (c :: found.1, found.2) :=
        ⟨_, fun t => by
          rw [List.cons_append, headerText?.eq_def]
          dsimp only
          rw [if_neg hc, if_neg hend]⟩
      obtain ⟨mark', hnext⟩ := hnext
      obtain hnone | ⟨text, rest, hrest, hsome⟩ := ih hline mark'
      · exact .inl fun t => by rw [hnext, hnone]; rfl
      · exact .inr ⟨c :: text, rest, hrest, fun t => by rw [hnext, hsome]; rfl⟩

/-- Blanks in front of the end of a line are passed over. -/
theorem endLine?_space {c : Char} (hspace : isSpace c = true) (t : List Char) : endLine? (c :: t) = endLine? t := by
  unfold endLine?
  rw [List.dropWhile_cons_of_pos hspace]

/-- So is a comment, up to the end of its line. -/
theorem endLine?_comment {text : List Char} (h : '\n' ∉ text) (t : List Char) :
    endLine? ('#' :: (text ++ '\n' :: t)) = some ('\n' :: t) := by
  show some ((text ++ '\n' :: t).dropWhile (· ≠ '\n')) = _
  rw [dropWhile_line h]

/-- Anything else keeps a line from ending. -/
theorem endLine?_other {c : Char} (hspace : isSpace c = false) (hbreak : c ≠ '\n') (hcomment : c ≠ '#')
    (t : List Char) : endLine? (c :: t) = none := by
  unfold endLine?
  rw [List.dropWhile_cons_of_neg (by simp [hspace])]
  split
  · rename_i heq
    cases heq
  · rename_i heq
    exact absurd (List.head_eq_of_cons_eq heq) hbreak
  · rename_i heq
    exact absurd (List.head_eq_of_cons_eq heq) hcomment
  · rfl

/-- The end of a line is the end of what stands on it, but for a comment. -/
theorem endLine?_line {line : List Char} (h : '\n' ∉ line) :
    (∀ t, endLine? (line ++ '\n' :: t) = none) ∨
      ∀ t, ∃ t', endLine? (line ++ '\n' :: t) = some t' ∧ skipLines t' = skipLines t := by
  induction line with
  | nil => exact .inr fun t => ⟨t, rfl, rfl⟩
  | cons c line ih =>
    have hc : c ≠ '\n' := fun heq => h (heq ▸ List.mem_cons_self)
    have hline : '\n' ∉ line := fun hmem => h (List.mem_cons_of_mem _ hmem)
    simp only [List.cons_append]
    cases hspace : isSpace c with
    | true => simpa only [endLine?_space hspace] using ih hline
    | false =>
      by_cases hcomment : c = '#'
      · subst hcomment
        exact .inr fun t => ⟨'\n' :: t, endLine?_comment hline t, skipLines_break t⟩
      · exact .inl fun t => endLine?_other hspace hc hcomment _

/-! ## Lines -/

/-- What a line of a document does when it is read on its own. -/
def Line.alone (p : Progress) (l : Line) : Except ReadError Progress :=
  readLines 2 p l.chars

/-- A line that is read without a look at what stands behind it. -/
theorem Line.alone_of_local {l : Line} {p : Progress} (h : ∃ read : Except ReadError Progress, ∀ fuel t,
      readLines (fuel + 1) p (l.chars ++ t) = read.bind fun p => readLines fuel p t) (fuel : Nat) (t : List Char) :
    readLines (fuel + 1) p (l.chars ++ t) = (l.alone p).bind fun p => readLines fuel p t := by
  obtain ⟨read, hread⟩ := h
  have halone : l.alone p = read := by
    have hon := hread 1 []
    rw [List.append_nil] at hon
    rw [Line.alone, hon]
    cases read with
    | error e => rfl
    | ok p =>
      show readLines 1 p [] = .ok p
      rw [readLines, skipLines]
  rw [halone, hread]

/-- The header of a table opens it or not, whatever stands behind its line. -/
theorem header?_line {line : List Char} (h : '\n' ∉ line) (p : Progress) :
    (∀ t, header? p (line ++ '\n' :: t) = none) ∨
      ∃ q, ∀ t, ∃ t', header? p (line ++ '\n' :: t) = some (q, t') ∧ skipLines t' = skipLines t := by
  obtain hnone | ⟨text, rest, hrest, htext⟩ := headerText?_line h none
  · refine .inl fun t => ?_
    unfold header?
    rw [hnone]
    rfl
  have hopen (t : List Char) : header? p (line ++ '\n' :: t) =
      ((headerNames? text).bind (p.open? · openTable)).bind fun q => (endLine? (rest ++ '\n' :: t)).map (q, ·) := by
    unfold header?
    rw [htext]
    cases hnames : headerNames? text with
    | none => simp [hnames]
    | some names => cases hq : p.open? names openTable <;> cases he : endLine? (rest ++ '\n' :: t) <;>
        simp [hnames, hq, he]
  cases hq : (headerNames? text).bind (p.open? · openTable) with
  | none => exact .inl fun t => by rw [hopen, hq]; rfl
  | some q =>
    obtain hnone | hend := endLine?_line hrest
    · exact .inl fun t => by rw [hopen, hq, hnone]; rfl
    · refine .inr ⟨q, fun t => ?_⟩
      obtain ⟨t', ht', hskip⟩ := hend t
      exact ⟨t', by rw [hopen, hq, ht']; rfl, hskip⟩

/-- A header is read so. -/
theorem readLines_header_local {table name : List Char} (h : (Line.header table name).Shaped) (p : Progress) :
    ∃ read : Except ReadError Progress, ∀ fuel t,
      readLines (fuel + 1) p ((Line.header table name).chars ++ t) = read.bind fun p => readLines fuel p t := by
  have hline : '\n' ∉ table ++ '.' :: keyChars name ++ [']'] := by
    have htable : '\n' ∉ table := fun hmem => absurd (h.2 _ hmem) (by decide)
    have hname := notMem_keyChars (c := '\n') (.inr rfl) name
    simp [htable, hname]
  have hchars (t : List Char) : table ++ '.' :: keyChars name ++ ']' :: '\n' :: t =
      table ++ '.' :: keyChars name ++ [']'] ++ '\n' :: t := by
    simp
  obtain hnone | ⟨q, hread⟩ := header?_line hline p
  · refine ⟨.error .malformed, fun fuel t => ?_⟩
    rw [readLines_header_chars h, hchars, hnone]
    rfl
  · refine ⟨.ok q, fun fuel t => ?_⟩
    obtain ⟨t', ht', hskip⟩ := hread t
    rw [readLines_header_chars h, hchars, ht']
    exact readLines_congr hskip fuel q

/-- A key with an array of texts is read so. -/
theorem readLines_entry_local {key : List Char} {texts : List (List Char)} (h : (Line.entry key texts).Shaped)
    (p : Progress) :
    ∃ read : Except ReadError Progress, ∀ fuel t,
      readLines (fuel + 1) p ((Line.entry key texts).chars ++ t) = read.bind fun p => readLines fuel p t := by
  refine ⟨(arrayValue texts).bind fun v => orMalformed (p.set? [String.ofList key] v), fun fuel t => ?_⟩
  rw [readLines_entry_chars h, readAssignment_array h.1 h.2 (readValue_array texts true ('\n' :: t)) p]
  cases (arrayValue texts).bind fun v => orMalformed (p.set? [String.ofList key] v) <;> rfl

/-- **A line is read on its own**, and what stands behind it afterwards. -/
theorem readLines_line {l : Line} (h : l.Shaped) (hloud : l.isQuiet = false) (fuel : Nat) (p : Progress)
    (t : List Char) : readLines (fuel + 1) p (l.chars ++ t) = (l.alone p).bind fun p => readLines fuel p t := by
  cases l with
  | blank => cases hloud
  | comment text => cases hloud
  | header table name => exact Line.alone_of_local (readLines_header_local h p) fuel t
  | entry key texts => exact Line.alone_of_local (readLines_entry_local h p) fuel t

/-! ## Documents -/

/-- **Reading the lines of a document** comes to reading those that are neither blank nor comments, each on its
own. -/
theorem documentTables_loud {ls : List Line} (h : ∀ l ∈ ls, l.Shaped) {text : String}
    (htext : text.toList = linesChars ls) :
    documentTables text = ((loud ls).foldlM Line.alone .start).map (·.entries) := by
  obtain ⟨ls', hchars, hshaped, hloud⟩ := blankReturns_lines h
  have hlength := length_le_linesChars ls'
  have hlines (l : Line) (hl : l ∈ loud ls') (fuel : Nat) (p : Progress) (t : List Char) :
      readLines (fuel + 1) p (l.chars ++ t) = (l.alone p).bind fun p => readLines fuel p t := by
    obtain ⟨hl, hloud⟩ := List.mem_filter.mp hl
    exact readLines_line (hshaped l hl) (by simpa using hloud) fuel p t
  unfold documentTables
  dsimp only
  rw [htext, hchars, readLines_foldlM hshaped hlines (by omega), hloud]

/-- **Documents that differ in comments only** are read alike. -/
theorem read_of_loud {ls ls' : List Line} (h : ∀ l ∈ ls, l.Shaped) (h' : ∀ l ∈ ls', l.Shaped)
    (hloud : loud ls = loud ls') {text text' : String} (htext : text.toList = linesChars ls)
    (htext' : text'.toList = linesChars ls') : read text = read text' := by
  have htables : readTables text = readTables text' := by
    rw [readTables_of_lines h htext, readTables_of_lines h' htext', documentTables_loud h htext,
      documentTables_loud h' htext', hloud]
  unfold read
  rw [htables]

/-- **The reader of the library** passes over blank lines and comments. -/
theorem passesOver_read : PassesOver read := by
  intro before after l text text' hshaped hquiet htext htext'
  have hsub : (before ++ after).Sublist (before ++ l :: after) := (List.sublist_cons_self l after).append_left before
  have hloud : loud (before ++ l :: after) = loud (before ++ after) := by
    rw [loud_append, loud_append]
    exact congrArg (loud before ++ ·) (List.filter_cons_of_neg (by simp [hquiet]))
  exact read_of_loud hshaped (fun l' hl' => hshaped l' (hsub.subset hl')) hloud htext htext'

end WordLint.Toml
