import Mathlib
import WordLint.Regex.Search

/-!
# Plain text as a pattern

A character is **plain** when it has no meaning of its own in a pattern. A pattern of plain characters
is read as their sequence (`compile_plain`), and such a sequence matches where the text goes on with these
very characters (`run_literals`).

**The law** (`spans_literals_ne_nil_iff`): plain text is found in a text exactly when it is a part of the
text. Every span that is found holds the plain text (`mem_spans_literals`).
-/

namespace WordLint.Regex

/-- The characters with a meaning of their own where an item of a pattern can start. -/
def signs : List Char := ['\\', '|', ')', '[', '.', '^', '$', '?', '*', '+', '{', '(']

/-- A character that stands for itself. -/
def Plain (c : Char) : Prop :=
  c ∉ signs

instance (c : Char) : Decidable (Plain c) :=
  inferInstanceAs (Decidable (c ∉ signs))

/-- The signs of a pattern are characters of ASCII, and no letters or digits. -/
theorem plain_of_alphanum_or_above {c : Char} (h : c.isAlphanum ∨ 0x80 ≤ c.toNat) :
    Plain c := by
  have hsigns : (signs.all fun d => !d.isAlphanum && d.toNat < 0x80) = true := by decide
  intro hmem
  have hc := List.all_eq_true.mp hsigns c hmem
  rw [Bool.and_eq_true, Bool.not_eq_true', decide_eq_true_eq] at hc
  obtain ⟨hother, hascii⟩ := hc
  rcases h with h | h
  · rw [hother] at h
    cases h
  · omega

/-- The items that stand for some characters. -/
def literals (cs : List Char) : List Regex :=
  cs.map fun c => .char c.toNat

/-! ## Reading -/

/-- Without a backslash every character is a token. -/
theorem tokens_plain {cs : List Char} (h : ∀ c ∈ cs, Plain c) : tokens cs = cs.map .char := by
  fun_induction tokens cs with
  | case1 => rfl
  | case2 => exact absurd List.mem_cons_self (h '\\' List.mem_cons_self)
  | case3 c rest ih => exact absurd List.mem_cons_self (h '\\' List.mem_cons_self)
  | case4 c rest hdangling hescape ih =>
    rw [List.map_cons, ih fun d hd => h d (List.mem_cons_of_mem _ hd)]

/-- A step behind one that succeeds. -/
theorem run_bind_ok {α β : Type} {x : Read α} {f : α → Read β} {a : α} {r r' : Reader}
    (h : x.run r = .ok (a, r')) : (x >>= f).run r = (f a).run r' := by
  rw [StateT.run_bind, h]
  rfl

/-- Characters are passed over one by one: no backslash at the end is among them. -/
theorem skip_chars {cs : List Char} (n : Nat) {r : Reader} (h : r.rest = cs.map .char) :
    (skip n).run r =
      .ok ((), { r with rest := r.rest.drop n, position := r.position + widthOf (r.rest.take n) }) := by
  have hlast : (r.rest.take (n + 1)).getLast? ≠ some .dangling := by
    intro hlast
    have hmem := List.mem_of_mem_take (List.mem_of_getLast? hlast)
    rw [h] at hmem
    obtain ⟨c, _, hc⟩ := List.mem_map.mp hmem
    cases hc
  unfold skip
  simp only [StateT.run_bind, StateT.run_get, pure_bind]
  rw [if_neg hlast]
  rfl

/-- One step of reading: a plain character becomes an item. Where blanks and comments are passed over it
must not be one of them. -/
theorem sequence_step {first verbose : Bool} {c : Char} (hc : Plain c)
    (hverbose : verbose = true → isPatternBlank c = false ∧ c ≠ '#') (fuel : Nat) (items : List Regex)
    {ts : List Token} {r : Reader} (hr : r.rest = .char c :: ts) :
    (sequence first verbose (fuel + 1) items).run r =
      (do skip 1; sequence first verbose fuel (.char c.toNat :: items) : Read Regex).run r := by
  simp only [Plain, signs, List.mem_cons, List.not_mem_nil, or_false, not_or] at hc
  rw [sequence]
  simp only [peek, StateT.run_bind, StateT.run_get, StateT.run_pure, pure_bind, hr, List.head?_cons]
  split
  · rename_i heq
    cases heq
  · rename_i heq
    cases heq
    simp at hc
  · rename_i heq
    cases heq
    simp at hc
  · rename_i t hbar hclose heq
    cases heq
    have hkept : (verbose && isPatternBlank c) = false ∧ (verbose && decide (c = '#')) = false := by
      cases verbose with
      | false => exact ⟨rfl, rfl⟩
      | true => simpa using hverbose rfl
    simp only [hkept.1, hkept.2, Bool.false_eq_true, if_false]
    split <;> first | rfl | simp at hc

/-- Plain characters are read one by one, up to the end of the pattern. -/
theorem sequence_plain (first : Bool) {cs : List Char} (hcs : ∀ c ∈ cs, Plain c) {fuel : Nat}
    (hfuel : cs.length < fuel) (items : List Regex) {r : Reader} (hr : r.rest = cs.map .char) :
    (sequence first false fuel items).run r =
      .ok (catAll (items.reverse ++ literals cs),
        { r with rest := [], position := r.position + cs.length }) := by
  induction cs generalizing fuel items r with
  | nil =>
    obtain ⟨fuel, rfl⟩ := Nat.exists_eq_add_of_lt hfuel
    obtain ⟨rest, position, flags, groups, names, lookbehindGroups, asked⟩ := r
    cases hr
    rw [literals, List.map_nil, List.append_nil]
    rfl
  | cons c rest ih =>
    obtain ⟨fuel, rfl⟩ : ∃ n, fuel = n + 1 := ⟨fuel - 1, by omega⟩
    rw [List.length_cons] at hfuel
    rw [sequence_step (hcs c List.mem_cons_self) (by simp) fuel items hr, run_bind_ok (skip_chars 1 hr), hr]
    have hmore := ih (fun d hd => hcs d (List.mem_cons_of_mem _ hd)) (Nat.lt_of_succ_lt_succ hfuel)
      (.char c.toNat :: items) (r := { r with rest := rest.map .char, position := r.position + 1 }) rfl
    refine hmore.trans ?_
    simp only [List.reverse_cons, List.append_assoc, List.singleton_append, literals, List.map_cons,
      List.length_cons, Nat.add_assoc, Nat.add_comm 1]

/-- The reader behind a pattern of plain characters. -/
def Reader.behind (cs : List Char) : Reader :=
  { Reader.ofTokens [] with position := cs.length }

theorem alternatives_plain {cs : List Char} (h : ∀ c ∈ cs, Plain c) {fuel : Nat}
    (hfuel : cs.length + 1 < fuel) :
    (alternatives true false fuel []).run (.ofTokens (cs.map .char)) =
      .ok (catAll (literals cs), .behind cs) := by
  obtain ⟨fuel, rfl⟩ : ∃ n, fuel = n + 1 := ⟨fuel - 1, by omega⟩
  have hseq := sequence_plain true h (Nat.lt_of_succ_lt_succ hfuel) []
    (r := .ofTokens (cs.map .char)) rfl
  simp only [Reader.ofTokens, Nat.zero_add, List.reverse_nil, List.nil_append] at hseq
  rw [alternatives]
  exact run_bind_ok hseq

theorem wholePattern_plain {cs : List Char} (h : ∀ c ∈ cs, Plain c) {fuel : Nat}
    (hfuel : cs.length + 1 < fuel) :
    (wholePattern fuel).run (.ofTokens (cs.map .char)) = .ok (catAll (literals cs), .behind cs) := by
  rw [wholePattern, run_bind_ok (skip_chars 0 rfl)]
  exact run_bind_ok (alternatives_plain h hfuel)

/-- A sequence of characters has no lookbehind and no repetition. -/
theorem unmatchable?_literals (template : Bool) (cs : List Char) :
    (catAll (literals cs)).unmatchable? template = none := by
  induction cs with
  | nil => rfl
  | cons c rest ih =>
    cases rest with
    | nil => rfl
    | cons d rest => exact ih

/-- **A pattern of plain characters** is read as their sequence. -/
theorem compile_plain {cs : List Char} (h : ∀ c ∈ cs, Plain c) :
    compile (String.ofList cs) = .ok ⟨catAll (literals cs), []⟩ := by
  unfold compile
  dsimp only
  rw [String.toList_ofList, tokens_plain h, wholePattern_plain h (by rw [List.length_map]; omega)]
  dsimp only
  rw [unmatchable?_literals]
  rfl

/-! ## Matching -/

variable {text : Array Char}

/-- The items of a sequence are tried one behind the other. -/
theorem run_catAll_cons (r : Regex) (rs : List Regex) (mode : Mode) (p : Point)
    (k : Point → Option Point) :
    (catAll (r :: rs)).run text mode p k = r.run text mode p fun q => (catAll rs).run text mode q k := by
  cases rs <;> rfl

/-- A character of a pattern without flags matches itself. -/
theorem codeMatches_plain (c d : Char) : codeMatches [] c.toNat d = (c == d) := by
  unfold codeMatches Mode.ignoresCase
  simp only [List.contains_nil, Bool.false_and, Bool.or_false]
  rw [Bool.eq_iff_iff, beq_iff_eq, beq_iff_eq]
  exact ⟨fun h => Char.toNat_inj.mp h, fun h => by rw [h]⟩

/-- **A sequence of characters** matches where the text goes on with them, and ends behind them. -/
theorem run_literals (cs : List Char) (p : Point) (k : Point → Option Point) :
    (catAll (literals cs)).run text [] p k =
      if cs <+: text.toList.drop p.position then k (p.advance cs.length) else none := by
  induction cs generalizing p with
  | nil => rw [if_pos List.nil_prefix]; rfl
  | cons c rest ih =>
    rw [literals, List.map_cons, run_catAll_cons]
    show step text (codeMatches [] c.toNat) p _ = _
    unfold step
    cases hnext : text[p.position]? with
    | none =>
      have hend : text.size ≤ p.position := Array.getElem?_eq_none_iff.mp hnext
      rw [List.drop_of_length_le (by simpa using hend), if_neg (by simp)]
    | some d =>
      obtain ⟨hlt, hd⟩ := Array.getElem?_eq_some_iff.mp hnext
      have hdrop : text.toList.drop p.position = d :: text.toList.drop (p.position + 1) := by
        rw [← hd, List.drop_eq_getElem_cons (by simpa using hlt)]
        rfl
      simp only [codeMatches_plain, hdrop, List.cons_prefix_cons]
      by_cases hcd : c = d
      · rw [if_pos (beq_iff_eq.mpr hcd)]
        refine (ih (p.advance 1)).trans ?_
        simp only [hcd, true_and, Point.advance, List.length_cons, Nat.add_assoc, Nat.add_comm 1]
      · rw [if_neg (by simpa using hcd), if_neg (fun h => hcd h.1)]

/-- Where plain text matches it ends behind its last character. -/
theorem matchEnd?_literals {cs : List Char} (hcs : cs ≠ []) (start : Nat) (nonempty : Bool) :
    (Compiled.mk (catAll (literals cs)) []).matchEnd? text start nonempty =
      if cs <+: text.toList.drop start then some (start + cs.length) else none := by
  have hlength := List.length_pos_iff.mpr hcs
  unfold Compiled.matchEnd?
  dsimp only
  rw [run_literals]
  by_cases hprefix : cs <+: text.toList.drop start
  · have hmoved : (start + cs.length == start) = false := by
      rw [beq_eq_false_iff_ne]
      omega
    rw [if_pos (show cs <+: text.toList.drop (Point.start start).position from hprefix), if_pos hprefix]
    simp only [Point.start, Point.advance, hmoved, Bool.and_false, Bool.false_eq_true, if_false,
      Option.map_some]
  · rw [if_neg (show ¬ cs <+: text.toList.drop (Point.start start).position from hprefix), if_neg hprefix]
    rfl

/-! ## Searching -/

/-- A search fails exactly when there is no match at any of its positions. -/
theorem firstFrom_eq_none_iff (e : Compiled) : ∀ (count start : Nat),
    e.firstFrom text count start false = none ↔
      ∀ i, start ≤ i → i < start + count → e.matchEnd? text i false = none := by
  intro count
  induction count with
  | zero =>
    intro start
    exact ⟨fun _ i hle hlt => absurd hlt (by omega), fun _ => rfl⟩
  | succ count ih =>
    intro start
    unfold Compiled.firstFrom
    cases hstart : e.matchEnd? text start false with
    | some stop =>
      refine ⟨fun h => (nomatch h), fun h => ?_⟩
      have := h start (Nat.le_refl _) (by omega)
      rw [hstart] at this
      cases this
    | none =>
      dsimp only
      rw [ih (start + 1)]
      refine ⟨fun h i hle hlt => ?_, fun h i hle hlt => h i (by omega) (by omega)⟩
      rcases Nat.eq_or_lt_of_le hle with rfl | hle
      · exact hstart
      · exact h i hle (by omega)

/-- What a search finds is a match that starts at one of its positions. -/
theorem matchEnd?_of_firstFrom {e : Compiled} {span : Nat × Nat} : ∀ {count start : Nat} {nonempty : Bool},
    e.firstFrom text count start nonempty = some span →
      ∃ nonempty, e.matchEnd? text span.1 nonempty = some span.2 := by
  intro count
  induction count with
  | zero => exact fun h => nomatch h
  | succ count ih =>
    intro start nonempty h
    unfold Compiled.firstFrom at h
    split at h
    · rename_i stop hstop
      cases h
      exact ⟨nonempty, hstop⟩
    · exact ih h

/-- Every span is a match at its start. -/
theorem matchEnd?_of_mem_spans {e : Compiled} {span : Nat × Nat} (h : span ∈ e.spans text) :
    ∃ nonempty, e.matchEnd? text span.1 nonempty = some span.2 := by
  have hscan : ∀ fuel start nonempty, span ∈ e.spansFrom text fuel start nonempty →
      ∃ nonempty, e.matchEnd? text span.1 nonempty = some span.2 := by
    intro fuel
    induction fuel with
    | zero => exact fun _ _ h => nomatch h
    | succ fuel ih =>
      intro start nonempty h
      unfold Compiled.spansFrom at h
      split at h
      · cases h
      · rename_i s stop hfirst
        rcases List.mem_cons.mp h with rfl | h
        · exact matchEnd?_of_firstFrom hfirst
        · exact ih _ _ h
  exact hscan _ _ _ h

/-- There are spans exactly when there is a match somewhere. -/
theorem spans_ne_nil_iff (e : Compiled) :
    e.spans text ≠ [] ↔ ∃ start ≤ text.size, (e.matchEnd? text start false).isSome := by
  have hspans : e.spans text = [] ↔ e.firstFrom text (text.size + 1) 0 false = none := by
    unfold Compiled.spans Compiled.spansFrom
    rw [Nat.sub_zero]
    cases e.firstFrom text (text.size + 1) 0 false with
    | none => exact ⟨fun _ => rfl, fun _ => rfl⟩
    | some span => exact ⟨fun h => (nomatch h), fun h => (nomatch h)⟩
  rw [Ne, hspans, firstFrom_eq_none_iff]
  constructor
  · intro h
    by_contra hnone
    refine h fun i _ hlt => ?_
    by_contra hi
    exact hnone ⟨i, by omega, Option.isSome_iff_ne_none.mpr hi⟩
  · rintro ⟨start, hle, hsome⟩ hnone
    rw [hnone start (Nat.zero_le _) (by omega)] at hsome
    cases hsome

/-- **Plain text is found** in a text exactly when it is a part of it. -/
theorem spans_literals_ne_nil_iff {cs : List Char} (hcs : cs ≠ []) :
    (Compiled.mk (catAll (literals cs)) []).spans text ≠ [] ↔ cs <:+: text.toList := by
  rw [spans_ne_nil_iff]
  constructor
  · rintro ⟨start, _, hsome⟩
    rw [matchEnd?_literals hcs] at hsome
    split at hsome
    · rename_i hprefix
      exact hprefix.isInfix.trans (List.drop_suffix start _).isInfix
    · cases hsome
  · rintro ⟨before, after, htext⟩
    refine ⟨before.length, ?_, ?_⟩
    · rw [← Array.length_toList, ← htext]
      simp only [List.length_append]
      omega
    · have hdrop : text.toList.drop before.length = cs ++ after := by
        rw [← htext, List.append_assoc, List.drop_left]
      rw [matchEnd?_literals hcs, hdrop, if_pos (List.prefix_append cs after)]
      rfl

/-- A span of plain text holds the plain text. -/
theorem spanText_of_mem_spans_literals {cs : List Char} (hcs : cs ≠ []) {span : Nat × Nat}
    (h : span ∈ (Compiled.mk (catAll (literals cs)) []).spans text) :
    spanText text span = String.ofList cs := by
  obtain ⟨nonempty, h⟩ := matchEnd?_of_mem_spans h
  rw [matchEnd?_literals hcs] at h
  split at h
  · rename_i hprefix
    have hstop : span.1 + cs.length = span.2 := Option.some.inj h
    unfold spanText
    rw [← hstop, Array.toList_extract, List.extract_eq_take_drop, Nat.add_sub_cancel_left,
      ← List.prefix_iff_eq_take.mp hprefix]
  · cases h

end WordLint.Regex
