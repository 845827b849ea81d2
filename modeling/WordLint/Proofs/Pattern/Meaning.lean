import Mathlib
import WordLint.Proofs.Pattern.Delimiting

/-!
# What a slash form means

The source of a pattern is shown with some slashes and all line terminators written as escapes. Shown that way it
is a regular expression again, and the same one, if the line terminators stand where an escape means the same
(`Rewritable`): not behind a backslash, which would then be taken for an escape of its own, not where a verbose
pattern passes over blanks, and not around the number that a conditional asks for.

**The law** (`escapeSource_means`): then the form finds in every text what the source finds.
-/

namespace WordLint.SlashForm

open Regex (Token tokens openAfter Spelled spelling? HasSwitch InSet Writable Compiled)

variable {c : Char} {cs : List Char}

/-! ## The tokens of a form -/

/-- The characters that have an escape which means the same. -/
abbrev HasSpelling (c : Char) : Prop :=
  (spelling? c).isSome = true

/-- What is written for a line terminator is that escape. -/
theorem terminatorEscape?_spelling {escape : List Char} (h : terminatorEscape? c = some escape) :
    ∃ d ds, escape = '\\' :: d :: ds ∧ spelling? c = some (d, ds) := by
  unfold terminatorEscape? at h
  split at h <;> cases h <;> exact ⟨_, _, rfl, rfl⟩

/-- The tokens of an escape that is written for a character. -/
theorem tokens_spelling {d : Char} {ds : List Char} (hd : spelling? c = some (d, ds)) (more : List Char) :
    tokens ('\\' :: d :: ds ++ more) = .escape d :: (ds.map .char ++ tokens more) := by
  have hbackslash : '\\' ∉ ds := fun hmem => by
    have hdigit := List.all_eq_true.mp (Regex.spelling?_digits hd) _ hmem
    cases hdigit
  rw [List.cons_append, List.cons_append, tokens_escape, tokens_append hbackslash]

/-- What is written for a source has its tokens, with some characters as escapes, unless a line terminator stands
behind a backslash. -/
theorem spelled_writeAll (inSet : Bool) (h : ∀ c ∈ lineTerminators, .escape c ∉ tokens cs) :
    Spelled HasSpelling (tokens cs) (tokens (SlashScan.writeAll ⟨inSet, false⟩ cs)) := by
  fun_induction tokens cs generalizing inSet with
  | case1 => exact .nil
  | case2 => exact .same _ .nil
  | case3 c rest ih =>
    have hc : c ∉ lineTerminators := fun hmem => h c hmem List.mem_cons_self
    have hwrite : SlashScan.write ⟨inSet, true⟩ c = [c] := by
      unfold SlashScan.write
      rw [terminatorEscape?_eq_none_iff.mpr hc]
      simp [SlashScan.closes]
    have hwritten : SlashScan.writeAll ⟨inSet, false⟩ ('\\' :: c :: rest) =
        '\\' :: c :: SlashScan.writeAll ⟨inSet, false⟩ rest := by
      rw [SlashScan.writeAll, SlashScan.writeAll, after_pair]
      exact congrArg (['\\'] ++ ·) (congrArg (· ++ _) hwrite)
    rw [hwritten, tokens_escape]
    exact .same _ (ih inSet fun d hd hmem => h d hd (List.mem_cons_of_mem _ hmem))
  | case4 c rest hdangling hescape ih =>
    have hc := ne_backslash hdangling hescape
    have hrest := ih (openAfter inSet [.char c]) fun d hd hmem => h d hd (List.mem_cons_of_mem _ hmem)
    rw [SlashScan.writeAll, after_char hc]
    unfold SlashScan.write
    cases hterminator : terminatorEscape? c with
    | some escape =>
      obtain ⟨d, ds, rfl, hd⟩ := terminatorEscape?_spelling hterminator
      rw [tokens_spelling hd]
      exact .written (by rw [HasSpelling, hd]; rfl) hd hrest
    | none =>
      dsimp only
      split
      · rename_i hcloses
        obtain rfl : c = '/' := by
          simp only [SlashScan.closes, Bool.and_eq_true, decide_eq_true_eq] at hcloses
          exact hcloses.1.1
        have hslash : spelling? '/' = some ('/', []) := rfl
        rw [show ['\\', '/'] ++ _ = '\\' :: '/' :: [] ++ _ from rfl, tokens_spelling hslash]
        exact .written (Option.isSome_iff_exists.mpr ⟨_, hslash⟩) hslash hrest
      · rw [List.singleton_append, tokens_cons hc]
        exact .same _ hrest

/-! ## Expressions that find the same -/

/-- What is found depends only on where matches end. -/
theorem spans_congr {e e' : Compiled} {text : Array Char}
    (h : ∀ start nonempty, e.matchEnd? text start nonempty = e'.matchEnd? text start nonempty) :
    e.spans text = e'.spans text := by
  have hfirst : ∀ count start nonempty,
      e.firstFrom text count start nonempty = e'.firstFrom text count start nonempty := by
    intro count
    induction count with
    | zero => exact fun _ _ => rfl
    | succ count ih =>
      intro start nonempty
      rw [Compiled.firstFrom, Compiled.firstFrom, h, ih]
  have hspans : ∀ fuel start nonempty,
      e.spansFrom text fuel start nonempty = e'.spansFrom text fuel start nonempty := by
    intro fuel
    induction fuel with
    | zero => exact fun _ _ => rfl
    | succ fuel ih =>
      intro start nonempty
      simp only [Compiled.spansFrom, hfirst, ih]
  exact hspans _ 0 false

/-! ## The law -/

/-- The line terminators of a source stand where an escape means the same. None stands behind a backslash. Behind
a group that makes a pattern verbose there are line feeds and carriage returns only inside sets, and there is none
around the number that a conditional asks for. -/
structure Rewritable (cs : List Char) : Prop where
  escapes : ∀ c ∈ lineTerminators, .escape c ∉ tokens cs
  blanks : ∀ u c v, tokens cs = u ++ .char c :: v → c = '\n' ∨ c = '\r' → HasSwitch u → InSet u
  asked : ∀ u v, tokens cs = u ++ .char '(' :: .char '?' :: .char '(' :: v →
    ∀ c ∈ lineTerminators, .char c ∉ v.takeWhile (· ≠ .char ')')

theorem Rewritable.writable (h : Rewritable cs) : Writable HasSpelling (tokens cs) where
  line u c v hcs hswitch hc hblank := by
    have hbreak : c = '\n' ∨ c = '\r' :=
      Regex.forall_spelling? (P := fun c => Regex.isPatternBlank c = true → c = '\n' ∨ c = '\r')
        (by decide) hc hblank
    exact h.blanks u c v hcs hbreak hswitch
  asked u v hcs c hc hblank := by
    have hbreak : c ∈ lineTerminators :=
      Regex.forall_spelling? (P := fun c => Text.isNumeralBlank c = true → c ∈ lineTerminators)
        (by decide +kernel) hc hblank
    exact h.asked u v hcs c hbreak

/-- The form of a source that is not empty is the same expression. -/
theorem compile_escapeSource {source : String} {e : Compiled} (h : Regex.compile source = .ok e)
    (hsource : Rewritable source.toList) (hne : source.toList ≠ []) :
    Regex.compile (String.ofList (escapeSource source.toList)) = .ok e := by
  refine Regex.compile_spelled h ?_ hsource.writable
  rw [String.toList_ofList, escapeSource, if_neg (by simpa using hne)]
  exact spelled_writeAll false hsource.escapes

/-- The form of the empty source is an empty group, which finds the same. -/
theorem spans_empty_group (text : Array Char) :
    Compiled.spans ⟨.scoped [] [] .empty, []⟩ text = Compiled.spans ⟨.empty, []⟩ text :=
  spans_congr fun _ _ => rfl

/-- **The slash form of a source means what the source means**: when a source is a regular expression and its line
terminators stand where an escape means the same, what stands between the slashes is a regular expression too,
and it finds the same spans in every text. -/
theorem escapeSource_means {source : String} {e : Compiled} (h : Regex.compile source = .ok e)
    (hsource : Rewritable source.toList) :
    ∃ e', Regex.compile (String.ofList (escapeSource source.toList)) = .ok e' ∧
      ∀ text, e'.spans text = e.spans text := by
  by_cases hne : source.toList = []
  · obtain rfl : source = "" := String.toList_eq_nil_iff.mp hne
    have hempty : Regex.compile "" = .ok ⟨.empty, []⟩ := by cbv
    rw [hempty] at h
    cases h
    exact ⟨⟨.scoped [] [] .empty, []⟩, by cbv, spans_empty_group⟩
  · exact ⟨e, compile_escapeSource h hsource hne, fun _ => rfl⟩

/-- A source with a flag, slashes inside brackets and outside of them, and a line terminator. -/
theorem escapeSource_means_flag :
    Rewritable "(?i)[/]/\n".toList ∧ ∃ e, Regex.compile "(?i)[/]/\n" = .ok e ∧
      String.ofList (escapeSource "(?i)[/]/\n".toList) = "(?i)[/]\\/\\n" ∧
      ∃ e', Regex.compile "(?i)[/]\\/\\n" = .ok e' ∧ ∀ text, e'.spans text = e.spans text := by
  have hread : Regex.compile "(?i)[/]/\n" =
      .ok ⟨Regex.catAll [.set false [.char 47], .char 47, .char 10], [.ignoreCase]⟩ := by
    cbv
  have hform : String.ofList (escapeSource "(?i)[/]/\n".toList) = "(?i)[/]\\/\\n" := by cbv
  have htokens : tokens "(?i)[/]/\n".toList = "(?i)[/]/\n".toList.map .char := by cbv
  have hsource : Rewritable "(?i)[/]/\n".toList := by
    refine ⟨?_, ?_, ?_⟩
    · rw [htokens]
      simp
    · intro u c v huv _ hswitch
      have hx : .char 'x' ∈ tokens "(?i)[/]/\n".toList := huv ▸ List.mem_append_left _ hswitch.mem
      rw [htokens] at hx
      simp at hx
    · intro u v huv
      have hinfix : [.char '(', .char '?', .char '('] <:+: tokens "(?i)[/]/\n".toList := ⟨u, v, by rw [huv]; simp⟩
      rw [htokens] at hinfix
      exact absurd hinfix (by decide)
  obtain ⟨e', he', hspans⟩ := escapeSource_means hread hsource
  exact ⟨hsource, _, hread, hform, e', hform ▸ he', hspans⟩

/-- What the escapes of line terminators change. Behind a backslash the escape becomes a backslash and a letter. In
a verbose pattern it is found where the line terminator was passed over. Around the number that a conditional
asks for it is refused. -/
theorem line_terminators_change :
    (∃ e e', Regex.compile "\\\n" = .ok e ∧ e.spans #['\n'] = [(0, 1)] ∧
      Regex.compile (String.ofList (escapeSource "\\\n".toList)) = .ok e' ∧ e'.spans #['\n'] = []) ∧
    (∃ e e', Regex.compile "(?x)\n" = .ok e ∧ e.spans #['a'] = [(0, 0), (1, 1)] ∧
      Regex.compile (String.ofList (escapeSource "(?x)\n".toList)) = .ok e' ∧ e'.spans #['a'] = []) ∧
    (Regex.compile "(a)(?(1\n)b)").toBool = true ∧
      (Regex.compile (String.ofList (escapeSource "(a)(?(1\n)b)".toList))).toBool = false := by
  refine ⟨⟨⟨.char 10, []⟩, ⟨Regex.catAll [.char 92, .char 110], []⟩, ?_, ?_, ?_, ?_⟩,
    ⟨⟨.empty, [.verbose]⟩, ⟨.char 10, [.verbose]⟩, ?_, ?_, ?_, ?_⟩, ?refused⟩
  case refused => decide +kernel
  all_goals cbv

end WordLint.SlashForm
