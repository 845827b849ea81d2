import Mathlib
import WordLint.Trace.Root

/-!
# What a record looks like

A placeholder that names a part takes that part (`fillFrom_text`, `fillFrom_number`), and what stands between
placeholders is left alone (`fillFrom_plain`). So the two layouts of a trace are filled in part by part.

**The law** (`layOut_eq_some_iff`): a record is laid out if its arguments fill its text and, in the long layout, the
number of its line has not too many digits. It becomes a line of its level and its message then, with the place that
it comes from in between where the layout is long, in the style of its level.
-/

namespace WordLint

variable {table : List (String × Value)} {values : List Value} {position : Nat} {cs rest : List Char} {s : Supply}
  {name : String} {v : Value}

/-! ## Filling in -/

/-- What has no placeholder is left alone. -/
theorem fillFrom_plain (h : '%' ∉ cs) :
    fillFrom position s (cs ++ rest) = (fillFrom (position + cs.length) s rest).map (cs ++ ·) := by
  induction cs generalizing position with
  | nil =>
    rw [List.nil_append, List.length_nil, Nat.add_zero]
    cases fillFrom position s rest <;> rfl
  | cons c cs ih =>
    rw [List.mem_cons, not_or] at h
    rw [List.cons_append, fillFrom, if_pos (Ne.symm h.1), ih h.2, List.length_cons, Nat.add_right_comm,
      Nat.add_assoc]
    cases fillFrom (position + (cs.length + 1)) s rest <;> rfl

theorem nameLength?_append {name : List Char} (h : ∀ c ∈ name, c ≠ '(' ∧ c ≠ ')') :
    nameLength? 0 (name ++ ')' :: rest) = some name.length := by
  induction name with
  | nil => rfl
  | cons c name ih =>
    obtain ⟨⟨hopen, hclose⟩, hname⟩ := List.forall_mem_cons.mp h
    rw [List.cons_append, nameLength?, if_neg hopen, ih hname, Option.map_some, List.length_cons]
    exact hclose

/-- The placeholder with a name, and nothing else in front of its letter. -/
def namedPlaceholder (name : String) (letter : Char) : Placeholder where
  flags := []
  left := false
  width := 0
  precision := none
  letter := letter
  index := name.length + 2

/-- A name in parentheses is looked up, and its part is the next value. -/
theorem placeholder_named {letter : Char} (hname : ∀ c ∈ name.toList, c ≠ '(' ∧ c ≠ ')')
    (hletter : letter ∈ ['s', 'd']) (h : table.lookup name = some v) :
    placeholder ⟨some table, values⟩ ('(' :: (name.toList ++ ')' :: letter :: rest)) =
      .ok (namedPlaceholder name letter, name.length + 3, ⟨some table, [v]⟩) := by
  have hlead : leadingName ⟨some table, values⟩ ('(' :: (name.toList ++ ')' :: letter :: rest)) =
      .ok (⟨some table, [v]⟩, letter :: rest) := by
    unfold leadingName
    simp [nameLength?_append hname, Supply.lookUp, h, bind, Except.bind, pure, Except.pure]
  have htaken : name.toList.length + (rest.length + 1 + 1) + 1 - rest.length = name.length + 1 + 2 := by
    rw [String.length_toList]
    omega
  simp only [List.mem_cons, List.not_mem_nil, or_false] at hletter
  unfold placeholder
  rw [hlead]
  rcases hletter with rfl | rfl <;>
    simp [bind, Except.bind, pure, Except.pure, leadingCount, leadingPrecision, dropSize, widthBound,
      namedPlaceholder] <;>
    exact htaken

/-- A placeholder with a name becomes what its letter makes of the part. -/
theorem fillFrom_named {letter : Char} (hname : ∀ c ∈ name.toList, c ≠ '(' ∧ c ≠ ')') (hletter : letter ∈ ['s', 'd'])
    (h : table.lookup name = some v) :
    fillFrom position ⟨some table, values⟩ ('%' :: '(' :: (name.toList ++ ')' :: letter :: rest)) = do
      let filled ← (namedPlaceholder name letter).fill (position + 1) v
      return filled ++ (← fillFrom (position + (name.length + 3) + 1) ⟨some table, []⟩ rest) := by
  have hdrop : ('(' :: (name.toList ++ ')' :: letter :: rest)).drop (name.length + 3) = rest := by
    have hlength : ('(' :: (name.toList ++ [')', letter])).length = name.length + 3 := by
      simp [String.length_toList]
    have hsplit : '(' :: (name.toList ++ ')' :: letter :: rest) = '(' :: (name.toList ++ [')', letter]) ++ rest := by
      simp
    rw [hsplit, ← hlength, List.drop_left]
  have hpercent : (namedPlaceholder name letter).letter ≠ '%' := by
    intro heq
    rw [show letter = '%' from heq] at hletter
    exact absurd hletter (by decide)
  rw [fillFrom, if_neg (not_not_intro rfl), placeholder_named hname hletter h]
  simp only [bind, Except.bind, hdrop, Supply.take]
  rw [if_neg hpercent]

/-- A part that is a text stands as it is. -/
theorem fillFrom_text {text : String} (hname : ∀ c ∈ name.toList, c ≠ '(' ∧ c ≠ ')')
    (h : table.lookup name = some (.str text)) :
    fillFrom position ⟨some table, values⟩ ('%' :: '(' :: (name.toList ++ ')' :: 's' :: rest)) =
      (fillFrom (position + (name.length + 3) + 1) ⟨some table, []⟩ rest).map (text.toList ++ ·) := by
  have hfill : (namedPlaceholder name 's').fill (position + 1) (.str text) = .ok text.toList := by
    simp [Placeholder.fill, namedPlaceholder, Value.text, Except.mapError, Placeholder.fillText, Placeholder.pad,
      bind, Except.bind, pure, Except.pure]
  rw [fillFrom_named hname (by decide) h, hfill]
  cases fillFrom (position + (name.length + 3) + 1) ⟨some table, []⟩ rest <;> rfl

/-- A part that is a number stands in decimal digits, if it has not too many. -/
theorem fillFrom_number {n : Nat} (hname : ∀ c ∈ name.toList, c ≠ '(' ∧ c ≠ ')')
    (h : table.lookup name = some (.int n)) :
    fillFrom position ⟨some table, values⟩ ('%' :: '(' :: (name.toList ++ ')' :: 'd' :: rest)) =
      if Text.oversized n then .error (.numeral .oversized)
      else (fillFrom (position + (name.length + 3) + 1) ⟨some table, []⟩ rest).map ((toString n).toList ++ ·) := by
  have hfill : (namedPlaceholder name 'd').fill (position + 1) (.int n) =
      if Text.oversized n then .error (.numeral .oversized) else .ok (toString n).toList := by
    have hsign : ¬ (n : Int) < 0 := Int.not_lt.mpr (Int.natCast_nonneg n)
    simp [Placeholder.fill, namedPlaceholder, Placeholder.truncated, integerOf?, Placeholder.fillDecimal,
      Placeholder.fillNumber, Placeholder.fillFront, Placeholder.signOf, Placeholder.pad, bind, Except.bind, hsign]
  rw [fillFrom_named hname (by decide) h, hfill]
  split
  · rfl
  · cases fillFrom (position + (name.length + 3) + 1) ⟨some table, []⟩ rest <;> rfl

/-! ## The layouts of a trace -/

namespace LogRecord

variable {r : LogRecord} {m : String}

/-- The parts of a record are what its layout is filled from. -/
theorem named_partsMapping (r : LogRecord) (m : String) :
    Supply.named (r.partsMapping m) = ⟨some (r.parts m), [r.partsMapping m]⟩ := by
  simp [Supply.named, partsMapping, Value.entries?, Value.str?, List.filterMap_map]

theorem fillIn_short (r : LogRecord) (m : String) :
    fillIn shortLayout (.named (r.partsMapping m)) = .ok s!"[{r.level.name}] {m}" := by
  have hlayout : shortLayout.toList = ['['] ++ ('%' :: '(' :: ("levelname".toList ++ ')' :: 's' ::
      ("] ".toList ++ ('%' :: '(' :: ("message".toList ++ [')', 's']))))) := by decide +kernel
  rw [fillIn, named_partsMapping, hlayout, fillFrom_plain (by simp), fillFrom_text (by simp) rfl,
    fillFrom_plain (by simp), fillFrom_text (by simp) rfl, fillFrom]
  exact congrArg Except.ok (String.toList_injective (by simp [toString]))

theorem fillIn_long (r : LogRecord) (m : String) :
    fillIn longLayout (.named (r.partsMapping m)) =
      if Text.oversized r.line then .error (.numeral .oversized)
      else .ok s!"[{r.level.name}] [{r.fileName}:{r.line}] [{r.function}] {m}" := by
  have hlayout : longLayout.toList = ['['] ++ ('%' :: '(' :: ("levelname".toList ++ ')' :: 's' ::
      ("] [".toList ++ ('%' :: '(' :: ("filename".toList ++ ')' :: 's' ::
      ([':'] ++ ('%' :: '(' :: ("lineno".toList ++ ')' :: 'd' ::
      ("] [".toList ++ ('%' :: '(' :: ("funcName".toList ++ ')' :: 's' ::
      ("] ".toList ++ ('%' :: '(' :: ("message".toList ++ [')', 's'])))))))))))))) := by decide +kernel
  rw [fillIn, named_partsMapping, hlayout, fillFrom_plain (by simp), fillFrom_text (by simp) rfl,
    fillFrom_plain (by simp), fillFrom_text (by simp) rfl, fillFrom_plain (by simp), fillFrom_number (by simp) rfl]
  split
  · rfl
  · rw [fillFrom_plain (by simp), fillFrom_text (by simp) rfl, fillFrom_plain (by simp), fillFrom_text (by simp) rfl,
      fillFrom]
    exact congrArg Except.ok (String.toList_injective (by simp [toString]))

/-! ## Lines -/

/-- A message behind the level of its record and, in a trace that shows more than results, the place that the record
comes from. -/
def inLayout (start : Level) (r : LogRecord) (m : String) : String :=
  if Level.info ≤ start then s!"[{r.level.name}] {m}"
  else s!"[{r.level.name}] [{r.fileName}:{r.line}] [{r.function}] {m}"

/-- A line says what a record has to say, in the style of its level. -/
def ShownAs (paint : Paint) (start : Level) (r : LogRecord) (line : String) : Prop :=
  ∃ m, r.message = .ok m ∧ line = paint (style r.level) (r.inLayout start m)

/-- A record has something to say: its arguments fill its text. And its place can be told where it has to be. -/
def Showable (start : Level) (r : LogRecord) : Prop :=
  (∃ m, r.message = .ok m) ∧ (Level.info ≤ start ∨ Text.oversized r.line = false)

theorem hasPart_layoutFrom (start : Level) : hasPart (layoutFrom start).toList = true := by
  unfold layoutFrom
  split <;> decide +kernel

theorem fillIn_layoutFrom (start : Level) (r : LogRecord) (m : String) :
    fillIn (layoutFrom start) (.named (r.partsMapping m)) =
      if Level.info ≤ start ∨ Text.oversized r.line = false then .ok (r.inLayout start m)
      else .error (.numeral .oversized) := by
  unfold layoutFrom inLayout
  by_cases hstart : Level.info ≤ start
  · rw [if_pos hstart, if_pos hstart, if_pos (.inl hstart), fillIn_short]
  · rw [if_neg hstart, if_neg hstart, fillIn_long]
    cases Text.oversized r.line with
    | true => rw [if_pos rfl, if_neg (by simp [hstart])]
    | false => rw [if_neg Bool.false_ne_true, if_pos (.inr rfl)]

/-- **A record that can be shown is laid out as a line that says what it has to say**, and no other one is. -/
theorem layOut_layoutFrom_cases (paint : Paint) (start : Level) (r : LogRecord) :
    (r.Showable start ∧ ∃ line, r.layOut paint (layoutFrom start) = .ok line ∧ r.ShownAs paint start line) ∨
      (¬ r.Showable start ∧ ∃ p, r.layOut paint (layoutFrom start) = .error p) := by
  have hlayout : (if (layoutFrom start).isEmpty = true then "%(message)s" else layoutFrom start) = layoutFrom start := by
    refine if_neg ?_
    unfold layoutFrom
    split <;> decide +kernel
  unfold layOut
  dsimp only
  rw [hlayout, hasPart_layoutFrom]
  cases hmessage : r.message with
  | error p =>
    refine .inr ⟨fun hshow => ?_, _, rfl⟩
    obtain ⟨⟨m, hm⟩, -⟩ := hshow
    rw [hmessage] at hm
    cases hm
  | ok m =>
    simp only [Except.mapError, bind, Except.bind, fillIn_layoutFrom]
    by_cases hplace : Level.info ≤ start ∨ Text.oversized r.line = false
    · rw [if_pos hplace]
      exact .inl ⟨⟨⟨m, hmessage⟩, hplace⟩, _, rfl, m, hmessage, rfl⟩
    · rw [if_neg hplace]
      exact .inr ⟨fun hshow => hplace hshow.2, _, rfl⟩

end LogRecord

end WordLint
