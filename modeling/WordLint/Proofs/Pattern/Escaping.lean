import WordLint.Proofs.Pattern.Delimiting

/-!
# How a slash form differs from its source

A form is put together from pieces, one for each character of its source (`WrittenAs`). A piece leaves the scan
of the form where its character leaves the scan of the source (`foldl_write`), so both scans agree behind
every character.

What is written needs nothing more (`Settled`): it has no line terminator, and no slash in it would end the form.
Such a text is written as it stands, and so the form of a form is that form.
-/

namespace WordLint.SlashForm

variable {s : SlashScan} {c : Char} {cs more : List Char}

/-! ## The scan of what is written -/

/-- What is known after some characters at the front. -/
def scanOf (cs : List Char) : SlashScan :=
  cs.foldl SlashScan.after .start

/-- Characters that mean nothing to the reader of a literal mean nothing to the scan. -/
theorem foldl_inert (h : ∀ c ∈ cs, Inert c) (inSet : Bool) :
    cs.foldl SlashScan.after ⟨inSet, false⟩ = ⟨inSet, false⟩ := by
  induction cs with
  | nil => rfl
  | cons c cs ih =>
    obtain ⟨hc, hcs⟩ := List.forall_mem_cons.mp h
    simp only [Inert, List.mem_cons, List.not_mem_nil, or_false, not_or] at hc
    have hafter : SlashScan.after ⟨inSet, false⟩ c = ⟨inSet, false⟩ := by
      simp [SlashScan.after, hc]
    rw [List.foldl_cons, hafter, ih hcs]

/-- A slash that would end the form stands outside of brackets and behind no backslash. -/
theorem closes_iff : s.closes c = true ↔ c = '/' ∧ s.inSet = false ∧ s.escaped = false := by
  simp [SlashScan.closes, and_assoc]

/-- The piece for a character leaves the scan where the character does. -/
theorem foldl_write (s : SlashScan) (c : Char) : (s.write c).foldl SlashScan.after s = s.after c := by
  unfold SlashScan.write
  cases hterminator : terminatorEscape? c with
  | some escape =>
    obtain ⟨d, ds, rfl, hinert⟩ := terminatorEscape?_eq_some hterminator
    have hafter : s.after c = ⟨s.inSet, false⟩ := by
      simp [SlashScan.after, hterminator]
    obtain ⟨inSet, escaped⟩ := s
    -- The backslash of the escape is used up by one before it; then the letters stand alone, and are inert.
    cases escaped with
    | true =>
      rw [List.foldl_cons, hafter]
      exact foldl_inert hinert inSet
    | false =>
      rw [List.foldl_cons, List.foldl_cons, after_pair, hafter]
      exact foldl_inert (fun e he => hinert e (List.mem_cons_of_mem _ he)) inSet
  | none =>
    dsimp only
    split
    · rename_i hcloses
      obtain ⟨rfl, hset, hfree⟩ := closes_iff.mp hcloses
      obtain ⟨inSet, escaped⟩ := s
      subst hset hfree
      rfl
    · rfl

/-! ## Pieces -/

/-- How a character may be written behind what has been scanned: a line terminator as its escape, a slash that
would end the form behind a backslash, and all else as it stands. -/
inductive WrittenAs (s : SlashScan) (c : Char) : List Char → Prop where
  | terminator {escape : List Char} (h : terminatorEscape? c = some escape) : WrittenAs s c escape
  | slash (hc : c = '/') (hset : s.inSet = false) (hfree : s.escaped = false) : WrittenAs s c ['\\', '/']
  | plain (hline : c ∉ lineTerminators) (hkept : c = '/' → s.escaped = true ∨ s.inSet = true) : WrittenAs s c [c]

theorem writtenAs_write (s : SlashScan) (c : Char) : WrittenAs s c (s.write c) := by
  unfold SlashScan.write
  cases hterminator : terminatorEscape? c with
  | some escape => exact .terminator hterminator
  | none =>
    dsimp only
    split
    · rename_i hcloses
      obtain ⟨rfl, hset, hfree⟩ := closes_iff.mp hcloses
      exact .slash rfl hset hfree
    · rename_i hkept
      refine .plain (terminatorEscape?_eq_none_iff.mp hterminator) fun hc => ?_
      rw [closes_iff] at hkept
      by_contra hopen
      simp only [not_or, Bool.not_eq_true] at hopen
      exact hkept ⟨hc, hopen.2, hopen.1⟩

/-- Every character has a piece that is not empty. -/
theorem WrittenAs.ne_nil {piece : List Char} (h : WrittenAs s c piece) : piece ≠ [] := by
  cases h with
  | terminator h =>
    obtain ⟨d, ds, rfl, -⟩ := terminatorEscape?_eq_some h
    exact List.cons_ne_nil _ _
  | slash => exact List.cons_ne_nil _ _
  | plain => exact List.cons_ne_nil _ _

/-- What is written is a piece for each character, and the scans agree behind every piece. -/
theorem writeAll_pieces (s : SlashScan) (cs : List Char) :
    ∃ pieces : List (List Char), pieces.length = cs.length ∧ s.writeAll cs = pieces.flatten ∧
      ∀ i c, cs[i]? = some c → ∃ piece, pieces[i]? = some piece ∧
        WrittenAs ((cs.take i).foldl SlashScan.after s) c piece ∧
        (pieces.take (i + 1)).flatten.foldl SlashScan.after s = (cs.take (i + 1)).foldl SlashScan.after s := by
  induction cs generalizing s with
  | nil => exact ⟨[], rfl, rfl, fun i c h => by simp at h⟩
  | cons d cs ih =>
    obtain ⟨pieces, hlength, hflatten, hat⟩ := ih (s.after d)
    refine ⟨s.write d :: pieces, by simp [hlength], by simp [SlashScan.writeAll, hflatten], fun i c hc => ?_⟩
    cases i with
    | zero =>
      obtain rfl : d = c := by simpa using hc
      exact ⟨s.write d, rfl, writtenAs_write s d, by simp [foldl_write]⟩
    | succ i =>
      obtain ⟨piece, hpiece, hwritten, hscan⟩ := hat i c (by simpa using hc)
      refine ⟨piece, by simpa using hpiece, by simpa using hwritten, ?_⟩
      rw [List.take_succ_cons, List.take_succ_cons, List.flatten_cons, List.foldl_append, foldl_write, hscan,
        List.foldl_cons]

/-! ## Texts that are written as they stand -/

/-- Nothing has to be written in another way: there is no line terminator and no slash that would end the form. -/
inductive Settled : SlashScan → List Char → Prop where
  | nil {s : SlashScan} : Settled s []
  | cons {s : SlashScan} {c : Char} {cs : List Char} (hline : c ∉ lineTerminators) (hkept : s.closes c = false)
      (h : Settled (s.after c) cs) : Settled s (c :: cs)

namespace Settled

theorem append (h : Settled s cs) (hmore : Settled (cs.foldl SlashScan.after s) more) : Settled s (cs ++ more) := by
  induction h with
  | nil => exact hmore
  | cons hline hkept _ ih => exact .cons hline hkept (ih hmore)

/-- Such a text is written as it stands. -/
theorem writeAll_eq (h : Settled s cs) : s.writeAll cs = cs := by
  induction h with
  | nil => rfl
  | @cons s c cs hline hkept _ ih =>
    have hwrite : s.write c = [c] := by
      simp [SlashScan.write, terminatorEscape?_eq_none_iff.mpr hline, hkept]
    rw [SlashScan.writeAll, hwrite, ih, List.singleton_append]

/-- Every slash in it is behind a backslash or inside brackets. -/
theorem slash_kept (h : Settled s cs) {before after : List Char} (hcs : cs = before ++ '/' :: after) :
    (before.foldl SlashScan.after s).escaped = true ∨ (before.foldl SlashScan.after s).inSet = true := by
  induction h generalizing before with
  | nil => simp at hcs
  | @cons s c cs _ hkept _ ih =>
    cases before with
    | nil =>
      obtain ⟨rfl, -⟩ : c = '/' ∧ cs = after := by simpa using hcs
      rw [← Bool.not_eq_true, closes_iff] at hkept
      by_contra hopen
      simp only [List.foldl_nil, not_or, Bool.not_eq_true] at hopen
      exact hkept ⟨rfl, hopen.2, hopen.1⟩
    | cons d before =>
      obtain ⟨rfl, hrest⟩ : c = d ∧ cs = before ++ '/' :: after := by simpa using hcs
      exact ih hrest

end Settled

/-- Without slashes and line terminators nothing is written in another way. -/
theorem settled_of_forall (s : SlashScan) (hlines : ∀ c ∈ cs, c ∉ lineTerminators) (hslash : '/' ∉ cs) :
    Settled s cs := by
  induction cs generalizing s with
  | nil => exact .nil
  | cons c cs ih =>
    obtain ⟨hc, hcs⟩ := List.forall_mem_cons.mp hlines
    rw [List.mem_cons, not_or] at hslash
    exact .cons hc (by simp [SlashScan.closes, Ne.symm hslash.1]) (ih _ hcs hslash.2)

/-- A piece is settled where it stands. -/
theorem settled_write (s : SlashScan) (c : Char) : Settled s (s.write c) := by
  have hlines := notMem_write s c
  unfold SlashScan.write at hlines ⊢
  cases hterminator : terminatorEscape? c with
  | some escape =>
    rw [hterminator] at hlines
    obtain ⟨d, ds, rfl, hinert⟩ := terminatorEscape?_eq_some hterminator
    refine settled_of_forall s hlines (List.not_mem_cons_of_ne_of_not_mem (by decide) fun hmem => ?_)
    exact hinert _ hmem (by decide)
  | none =>
    rw [hterminator] at hlines
    dsimp only at hlines ⊢
    split
    · rename_i hcloses
      obtain ⟨rfl, hset, hfree⟩ := closes_iff.mp hcloses
      obtain ⟨inSet, escaped⟩ := s
      subst hset hfree
      exact .cons (by decide) rfl (.cons (by decide) rfl .nil)
    · rename_i hkept
      rw [if_neg hkept] at hlines
      exact .cons (hlines c (List.mem_singleton_self c)) (Bool.eq_false_iff.mpr hkept) .nil

theorem settled_writeAll (s : SlashScan) (cs : List Char) : Settled s (s.writeAll cs) := by
  induction cs generalizing s with
  | nil => exact .nil
  | cons c cs ih =>
    refine (settled_write s c).append ?_
    rw [foldl_write]
    exact ih _

/-! ## Forms -/

theorem escapeSource_cons (c : Char) (cs : List Char) :
    escapeSource (c :: cs) = SlashScan.start.writeAll (c :: cs) :=
  rfl

theorem settled_escapeSource (source : List Char) : Settled .start (escapeSource source) := by
  cases source with
  | nil => exact settled_of_forall .start (notMem_escapeSource []) (by decide)
  | cons c cs =>
    rw [escapeSource_cons]
    exact settled_writeAll _ _

theorem escapeSource_ne_nil (source : List Char) : escapeSource source ≠ [] := by
  cases source with
  | nil => simp [escapeSource]
  | cons c cs =>
    rw [escapeSource_cons, SlashScan.writeAll]
    exact List.append_ne_nil_of_left_ne_nil (writtenAs_write _ c).ne_nil _

/-- A form is its own form. -/
theorem escapeSource_escapeSource (source : List Char) : escapeSource (escapeSource source) = escapeSource source := by
  obtain ⟨c, cs, hform⟩ := List.exists_cons_of_ne_nil (escapeSource_ne_nil source)
  have hsettled := settled_escapeSource source
  rw [hform] at hsettled ⊢
  rw [escapeSource_cons, hsettled.writeAll_eq]

/-- **A form differs from its source by escapes alone.** It is on one line, is not empty, is its own form, and keeps
every slash behind a backslash or inside brackets. And a source that is not empty is written piece by piece: a line
terminator as its escape, a slash that would end the form behind a backslash, all else as it stands; behind each
piece as much is known of the form as of the source. -/
theorem escapeSource_differs (source : List Char) :
    (∀ c ∈ escapeSource source, c ∉ lineTerminators) ∧ escapeSource source ≠ [] ∧
      escapeSource (escapeSource source) = escapeSource source ∧
      (∀ before after, escapeSource source = before ++ '/' :: after →
        (scanOf before).escaped = true ∨ (scanOf before).inSet = true) ∧
      (source ≠ [] → ∃ pieces : List (List Char),
        pieces.length = source.length ∧ escapeSource source = pieces.flatten ∧
          ∀ i c, source[i]? = some c → ∃ piece, pieces[i]? = some piece ∧
            WrittenAs (scanOf (source.take i)) c piece ∧
            scanOf (pieces.take (i + 1)).flatten = scanOf (source.take (i + 1))) := by
  refine ⟨notMem_escapeSource source, escapeSource_ne_nil source, escapeSource_escapeSource source,
    fun before after h => (settled_escapeSource source).slash_kept h, fun hne => ?_⟩
  obtain ⟨c, cs, rfl⟩ := List.exists_cons_of_ne_nil hne
  rw [escapeSource_cons]
  exact writeAll_pieces .start (c :: cs)

/-- A backslash is used up by the line terminator behind it, and so it is by the escape that is written for that;
the slash that follows gets a backslash of its own. The one inside brackets gets none. -/
theorem escapeSource_differs_pending : escapeSource "\\\n/[/]".toList = "\\\\n\\/[/]".toList ∧
    ∃ pieces : List (List Char), pieces.length = 6 ∧ "\\\\n\\/[/]".toList = pieces.flatten ∧
      scanOf (pieces.take 2).flatten = ⟨false, false⟩ := by
  have hform : escapeSource "\\\n/[/]".toList = "\\\\n\\/[/]".toList := by decide
  obtain ⟨-, -, -, -, hpieces⟩ := escapeSource_differs "\\\n/[/]".toList
  obtain ⟨pieces, hlength, hflatten, hat⟩ := hpieces (by decide)
  obtain ⟨piece, -, -, hscan⟩ := hat 1 '\n' (by decide)
  exact ⟨hform, pieces, hlength, hform ▸ hflatten, hscan⟩

end WordLint.SlashForm
