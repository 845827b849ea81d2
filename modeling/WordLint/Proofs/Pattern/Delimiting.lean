import Mathlib
import WordLint.Proofs.Pattern.SmallForms
import WordLint.Proofs.Regex.RespellingPatterns

/-!
# Where a slash form ends

A slash form is read like a literal between slashes (`literal?`): a backslash protects the next character, brackets
protect what is inside, and the first slash that is not protected ends it. What is written for a source leaves
such a reader where the scan of the source is (`body?_writeAll`), and that scan is right about the source but
for brackets in comments (`after_eq_tokens`).

**The law** (`render_delimited`): a pattern that is read is shown on one line, and its form ends at the last slash
unless its last bracket opens in a comment. Then the form has no end (`render_endless_comment`).
-/

namespace WordLint.SlashForm

open Regex (Token tokens openAfter OpensInComment)

variable {c : Char} {cs more : List Char} {inSet escaped : Bool}

/-! ## Reading a literal between slashes -/

/-- Something stands before what has been read. -/
def behind (front : List Char) (read : Option (List Char × List Char)) : Option (List Char × List Char) :=
  read.map fun (body, rest) => (front ++ body, rest)

/-- What stands before the slash that ends a literal, and what stands behind it. A backslash protects the next
character, and brackets protect what is inside; the reader may be inside brackets or behind a backslash. -/
def body? (inSet escaped : Bool) : List Char → Option (List Char × List Char)
  | [] => none
  | c :: rest =>
    if escaped then behind [c] (body? inSet false rest)
    else if c = '\\' then behind [c] (body? inSet true rest)
    else if c = '[' then behind [c] (body? true false rest)
    else if c = ']' then behind [c] (body? false false rest)
    else if c = '/' && !inSet then some ([], rest)
    else behind [c] (body? inSet false rest)

/-- The parts of a literal between slashes: what stands between them, and what stands behind. -/
def literal? : List Char → Option (List Char × List Char)
  | '/' :: rest => body? false false rest
  | _ => none

theorem behind_behind (front front' : List Char) (read : Option (List Char × List Char)) :
    behind front (behind front' read) = behind (front ++ front') read := by
  cases read with
  | none => rfl
  | some p => simp [behind]

/-- Characters that mean nothing to the reader of a literal. -/
def Inert (c : Char) : Prop :=
  c ∉ ['\\', '[', ']', '/']

theorem body?_inert (h : ∀ c ∈ cs, Inert c) (more : List Char) :
    body? inSet false (cs ++ more) = behind cs (body? inSet false more) := by
  induction cs with
  | nil => simp [behind]
  | cons c cs ih =>
    have hc := h c List.mem_cons_self
    simp only [Inert, List.mem_cons, List.not_mem_nil, or_false, not_or] at hc
    rw [List.cons_append, body?]
    simp only [Bool.false_eq_true, if_false, hc, decide_false, Bool.false_and]
    rw [ih fun d hd => h d (List.mem_cons_of_mem _ hd), behind_behind]
    rfl

/-! ## What is written -/

/-- The characters that end a line. -/
def lineTerminators : List Char :=
  ['\n', '\r', '\u2028', '\u2029']

theorem terminatorEscape?_eq_none_iff : terminatorEscape? c = none ↔ c ∉ lineTerminators := by
  unfold terminatorEscape? lineTerminators
  split <;> simp_all

/-- The escape of a line terminator is a backslash and characters that mean nothing to the reader. -/
theorem terminatorEscape?_eq_some {escape : List Char} (h : terminatorEscape? c = some escape) :
    ∃ d ds, escape = '\\' :: d :: ds ∧ ∀ e ∈ d :: ds, Inert e := by
  unfold terminatorEscape? at h
  split at h <;> cases h <;> exact ⟨_, _, rfl, by simp [Inert]⟩

/-- What is written for a character leaves the reader of a literal where the scan is. -/
theorem body?_write (s : SlashScan) (c : Char) (more : List Char) :
    body? s.inSet s.escaped (s.write c ++ more) =
      behind (s.write c) (body? (s.after c).inSet (s.after c).escaped more) := by
  obtain ⟨inSet, escaped⟩ := s
  unfold SlashScan.write SlashScan.after
  cases hterminator : terminatorEscape? c with
  | some escape =>
    obtain ⟨d, ds, rfl, hinert⟩ := terminatorEscape?_eq_some hterminator
    simp only [Option.isSome_some, Bool.or_true, if_true]
    cases escaped with
    | true =>
      rw [List.cons_append, body?, if_pos rfl, body?_inert hinert, behind_behind]
      rfl
    | false =>
      rw [List.cons_append, List.cons_append, body?, if_neg Bool.false_ne_true, if_pos rfl, body?, if_pos rfl,
        body?_inert fun e he => hinert e (List.mem_cons_of_mem _ he), behind_behind, behind_behind]
      rfl
  | none =>
    simp only [Option.isSome_none, Bool.or_false]
    unfold SlashScan.closes
    cases escaped with
    | true => simp [body?]
    | false =>
      simp only [Bool.not_false, Bool.and_true, Bool.false_eq_true, if_false]
      by_cases hbackslash : c = '\\'
      · simp [hbackslash, body?]
      by_cases hopen : c = '['
      · simp [hopen, body?]
      by_cases hclose : c = ']'
      · simp [hclose, body?]
      by_cases hslash : (decide (c = '/') && !inSet) = true
      · obtain ⟨rfl, rfl⟩ : c = '/' ∧ inSet = false := by simpa using hslash
        simp [body?, behind_behind]
      · simp [hslash, body?, hbackslash, hopen, hclose]

/-- What is written for a source leaves the reader of a literal where the scan of the source is. -/
theorem body?_writeAll (s : SlashScan) (cs more : List Char) :
    body? s.inSet s.escaped (s.writeAll cs ++ more) =
      behind (s.writeAll cs)
        (body? (cs.foldl SlashScan.after s).inSet (cs.foldl SlashScan.after s).escaped more) := by
  induction cs generalizing s with
  | nil =>
    rw [SlashScan.writeAll, List.nil_append, List.foldl_nil]
    cases body? s.inSet s.escaped more <;> rfl
  | cons c cs ih => rw [SlashScan.writeAll, List.append_assoc, body?_write, ih, behind_behind, List.foldl_cons]

theorem notMem_write (s : SlashScan) (c : Char) : ∀ d ∈ s.write c, d ∉ lineTerminators := by
  unfold SlashScan.write
  cases h : terminatorEscape? c with
  | some escape =>
    unfold terminatorEscape? at h
    split at h <;> cases h <;> simp [lineTerminators]
  | none =>
    have hc := terminatorEscape?_eq_none_iff.mp h
    have hbackslash : '\\' ∉ lineTerminators := by decide
    dsimp only
    split <;> simp [hc, hbackslash]

/-- No line terminator is written. -/
theorem notMem_escapeSource (cs : List Char) : ∀ c ∈ escapeSource cs, c ∉ lineTerminators := by
  have hwritten : ∀ s : SlashScan, ∀ c ∈ s.writeAll cs, c ∉ lineTerminators := by
    induction cs with
    | nil => exact fun _ _ hc => nomatch hc
    | cons d cs ih =>
      intro s c hc
      rw [SlashScan.writeAll] at hc
      exact (List.mem_append.mp hc).elim (notMem_write s d c) (ih _ c)
  unfold escapeSource
  split
  · simp [lineTerminators]
  · exact hwritten _

/-! ## The scan of a pattern -/

/-- A token is not the last one, or it is no backslash at the end. -/
theorem getLast?_cons_dangling {t : Token} (ht : t ≠ .dangling) (ts : List Token) :
    (t :: ts).getLast? = some .dangling ↔ ts.getLast? = some .dangling := by
  cases ts with
  | nil => simpa using ht
  | cons u ts => rw [List.getLast?_cons_cons]

/-- A backslash and the character behind it change nothing for the scan. -/
theorem after_pair (inSet : Bool) (c : Char) :
    SlashScan.after (SlashScan.after ⟨inSet, false⟩ '\\') c = ⟨inSet, false⟩ :=
  rfl

/-- Any other character may open or close brackets. -/
theorem after_char (hc : c ≠ '\\') (inSet : Bool) :
    SlashScan.after ⟨inSet, false⟩ c = ⟨openAfter inSet [.char c], false⟩ := by
  unfold SlashScan.after openAfter
  cases hterminator : (terminatorEscape? c).isSome with
  | true =>
    have hbracket : c ≠ '[' ∧ c ≠ ']' := by
      constructor <;> rintro rfl <;> cases hterminator
    simp [hbracket]
  | false =>
    by_cases hopen : c = '['
    · simp [hopen]
    · by_cases hclose : c = ']' <;> simp [hc, hopen, hclose]

/-- The scan of a pattern goes by the brackets of its tokens, and ends behind a backslash if they do. -/
theorem after_eq_tokens (inSet : Bool) (cs : List Char) : cs.foldl SlashScan.after ⟨inSet, false⟩ =
    ⟨openAfter inSet (tokens cs), decide ((tokens cs).getLast? = some .dangling)⟩ := by
  fun_induction tokens cs generalizing inSet with
  | case1 => rfl
  | case2 => rfl
  | case3 c rest ih =>
    rw [List.foldl_cons, List.foldl_cons, after_pair, ih]
    simp only [getLast?_cons_dangling (t := .escape c) (by simp)]
    rfl
  | case4 c rest hdangling hescape ih =>
    rw [List.foldl_cons, after_char (ne_backslash hdangling hescape), ih]
    simp only [getLast?_cons_dangling (t := .char c) (by simp)]
    rfl

/-! ## The form of a pattern -/

theorem toList_render (source : String) :
    (render source).toList = '/' :: (escapeSource source.toList ++ ['/', 'g']) := by
  simp [render, flags, toString]

/-- A form ends at its last slash unless its source ends inside brackets, or in a backslash. -/
theorem literal?_render (source : String) (h : (tokens source.toList).getLast? ≠ some .dangling) :
    literal? (render source).toList =
      if openAfter false (tokens source.toList) = true then none else some (escapeSource source.toList, ['g']) := by
  rw [toList_render, literal?]
  unfold escapeSource
  split
  · rename_i hempty
    rw [List.isEmpty_iff.mp hempty]
    rfl
  · have hbody := body?_writeAll .start source.toList ['/', 'g']
    rw [SlashScan.start, after_eq_tokens, decide_eq_false h] at hbody
    rw [SlashScan.start, hbody]
    cases openAfter false (tokens source.toList) with
    | true => rfl
    | false => simp [body?, behind]

end WordLint.SlashForm

namespace WordLint.Pattern

open SlashForm (literal? lineTerminators)
open Regex (tokens OpensInComment)

/-- A pattern that is read stands in small letters, and is a regular expression as it stands. -/
theorem compile_eq_ok {raw : String} {p : Pattern} (h : Pattern.compile raw = .ok p) :
    ∃ e, Regex.compile (Text.lower raw) = .ok e ∧ p = ⟨Text.lower raw, e⟩ := by
  unfold Pattern.compile at h
  dsimp only at h
  cases he : Regex.compile (Text.lower raw) with
  | error f =>
    rw [he] at h
    cases h
  | ok e =>
    rw [he] at h
    cases h
    exact ⟨e, rfl, rfl⟩

/-- **A pattern that is read is shown on one line, and its form can be told from what is behind it**: the slash
that ends it is the last one, in front of the letter of the flag. The exception is a pattern whose last bracket
opens in a comment: its form has no end. -/
theorem render_delimited {raw : String} {p : Pattern} (h : Pattern.compile raw = .ok p) :
    (∀ c ∈ p.render.toList, c ∉ lineTerminators) ∧
    ∃ body, p.render.toList = '/' :: (body ++ ['/', 'g']) ∧
      (¬ OpensInComment (tokens p.source.toList) → literal? p.render.toList = some (body, ['g'])) ∧
      (OpensInComment (tokens p.source.toList) → literal? p.render.toList = none) := by
  obtain ⟨e, he, rfl⟩ := compile_eq_ok h
  obtain ⟨hbalanced, hlast⟩ := Regex.compile_balanced he
  have hform := SlashForm.literal?_render (Text.lower raw) hlast
  have hlist := SlashForm.toList_render (Text.lower raw)
  refine ⟨?_, SlashForm.escapeSource (Text.lower raw).toList, hlist, fun hclosed => ?_, fun hopen => ?_⟩
  · intro c hc
    rw [show (Pattern.render ⟨Text.lower raw, e⟩).toList = _ from hlist, List.mem_cons, List.mem_append] at hc
    rcases hc with rfl | hc | hc
    · simp [lineTerminators]
    · exact SlashForm.notMem_escapeSource _ c hc
    · simp only [List.mem_cons, List.not_mem_nil, or_false] at hc
      rcases hc with rfl | rfl <;> simp [lineTerminators]
  · exact hform.trans (if_neg (mt hbalanced hclosed))
  · exact hform.trans (if_pos (hopen.openAfter false))

/-- A form with slashes inside brackets and outside of them. The bracket that closes at once for the scan stands
for itself in the pattern. -/
theorem render_delimited_slashes : ∃ p, Pattern.compile "A/[]/]" = .ok p ∧
    ¬ OpensInComment (tokens p.source.toList) ∧ p.render = "/a\\/[]\\/]/g" ∧
    ∃ body, p.render.toList = '/' :: (body ++ ['/', 'g']) ∧ literal? p.render.toList = some (body, ['g']) := by
  have hread : Pattern.compile "A/[]/]" =
      .ok ⟨"a/[]/]", Regex.catAll [.char 97, .char 47, .set false [.char 93, .char 47]], []⟩ := by
    cbv
  have hclosed : ¬ OpensInComment (tokens "a/[]/]".toList) := fun hopen => by
    cases hopen.openAfter false
  obtain ⟨-, body, hbody, hends, -⟩ := render_delimited hread
  exact ⟨_, hread, hclosed, by cbv, body, hbody, hends hclosed⟩

/-- A bracket in a comment is taken for the start of a set: then the slash behind it is protected for the reader
of the form, which has no end. -/
theorem render_endless_comment : ∃ p, Pattern.compile "(?#[)" = .ok p ∧ p.render = "/(?#[)/g" ∧
    literal? p.render.toList = none := by
  have hread : Pattern.compile "(?#[)" = .ok ⟨"(?#[)", .empty, []⟩ := by cbv
  exact ⟨_, hread, by cbv, by cbv⟩

end WordLint.Pattern
