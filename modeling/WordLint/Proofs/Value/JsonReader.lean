import Mathlib
import WordLint.Toml.Quote
import WordLint.Value.Json

/-!
# Reading JSON

A reader of JSON texts. Blanks may stand around every part; a string has no control character in it, and a
character beyond the first plane may be written by two code units; a number has no leading zero and is an integer
when it has neither a fraction nor a power; a key that comes twice keeps its place and takes the later value.

The reader goes `fuel` parts far and `fuel` levels deep, and a text is read with its own length: every part and
every level has a character of its own.

Each part that is written is read again, whatever follows it: strings (`string?_escaped`) and integers
(`number?_integer`), where what follows goes on no number (`Delimited`).
-/

namespace WordLint.Json

/-! ## The reader -/

/-- A blank between the parts of a text. -/
def isBlank (c : Char) : Bool :=
  c == ' ' || c == '\t' || c == '\n' || c == '\r'

namespace Reader

/-- A text without the blanks at its front. -/
def trimmed (cs : List Char) : List Char :=
  cs.dropWhile isBlank

/-- The character that a letter behind a backslash stands for. -/
def escapeChar? : Char → Option Char
  | '"' => some '"'
  | '\\' => some '\\'
  | '/' => some '/'
  | 'b' => some '\x08'
  | 'f' => some '\x0C'
  | 'n' => some '\n'
  | 'r' => some '\r'
  | 't' => some '\t'
  | _ => none

/-- The code unit that is written at the front in four hexadecimal digits. -/
def codeUnit? (cs : List Char) : Option (Nat × List Char) :=
  if cs.length < 4 then none else (Toml.hexNumber? (cs.take 4)).map fun n => (n, cs.drop 4)

/-- The character that is written at the front by its code unit, or by two of them with the escape between. -/
def codeChar? (cs : List Char) : Option (Char × List Char) := do
  let (high, rest) ← codeUnit? cs
  if high.isValidChar then return (Char.ofNat high, rest)
  let (low, rest) ← codeUnit? (← readMark? 'u' (← readMark? '\\' rest))
  if 0xD800 ≤ high && high < 0xDC00 && 0xDC00 ≤ low && low < 0xE000 then
    return (Char.ofNat (0x10000 + (high - 0xD800) * 0x400 + (low - 0xDC00)), rest)
  else none

/-- The character of a string that is written at the front. -/
def char? : List Char → Option (Char × List Char)
  | [] => none
  | c :: rest =>
    if c = '\\' then
      match rest with
      | [] => none
      | e :: rest => if e = 'u' then codeChar? rest else (escapeChar? e).map fun c => (c, rest)
    else if c.toNat < 0x20 then none
    else some (c, rest)

/-- The characters of a string up to its closing mark, and what follows. -/
def chars? : (fuel : Nat) → List Char → Option (List Char × List Char)
  | 0, _ => none
  | fuel + 1, cs =>
    if cs.head? = some '"' then some ([], cs.tail)
    else do
      let (c, rest) ← char? cs
      let (more, rest) ← chars? fuel rest
      return (c :: more, rest)

/-- The string whose opening mark has been read. -/
def string? (cs : List Char) : Option (String × List Char) :=
  (chars? cs.length cs).map fun (s, rest) => (String.ofList s, rest)

/-- The whole part of a number at the front: a zero, or digits that do not begin with one. -/
def whole? (cs : List Char) : Option (List Char × List Char) :=
  match cs.takeWhile Char.isDigit with
  | [] => none
  | '0' :: _ => some (['0'], cs.tail)
  | digits => some (digits, cs.dropWhile Char.isDigit)

/-- The fraction of a number at the front, with its point. -/
def fraction (cs : List Char) : List Char × List Char :=
  let digits := cs.tail.takeWhile Char.isDigit
  if cs.head? = some '.' && !digits.isEmpty then ('.' :: digits, cs.tail.dropWhile Char.isDigit) else ([], cs)

/-- The power of ten of a number at the front, with its mark and its sign. -/
def power (cs : List Char) : List Char × List Char :=
  let mark := cs.takeWhile fun c => c == 'e' || c == 'E'
  let sign := cs.tail.takeWhile fun c => c == '+' || c == '-'
  let digits := (cs.drop (1 + sign.length)).takeWhile Char.isDigit
  if mark.length = 1 && sign.length ≤ 1 && !digits.isEmpty then
    (mark ++ sign ++ digits, cs.drop (1 + sign.length + digits.length))
  else ([], cs)

/-- The number at the front. An integer with too many digits is not read. -/
def number? (cs : List Char) : Option (Value × List Char) := do
  let negative := cs.head? = some '-'
  let (whole, rest) ← whole? (if negative then cs.tail else cs)
  let (fraction, rest) := fraction rest
  let (power, rest) := power rest
  if fraction.isEmpty && power.isEmpty then
    if Text.maxDigits < whole.length then none
    else
      let n : Int := Nat.ofDigitChars 10 whole 0
      return (.int (if negative then -n else n), rest)
  else return (.float (← Double.readUnsigned? negative (whole ++ fraction ++ power)), rest)

/-- The values that have names. Three of them are not in the standard and are read nevertheless. -/
def names : List (List Char × Value) := [
  (['n', 'u', 'l', 'l'], .none), (['t', 'r', 'u', 'e'], .bool true), (['f', 'a', 'l', 's', 'e'], .bool false),
  (['N', 'a', 'N'], .float .nan), (['I', 'n', 'f', 'i', 'n', 'i', 't', 'y'], .float (.infinite false)),
  (['-', 'I', 'n', 'f', 'i', 'n', 'i', 't', 'y'], .float (.infinite true))]

/-- The value whose name stands at the front. -/
def named? (cs : List Char) : Option (Value × List Char) :=
  names.findSome? fun (name, v) => if name.isPrefixOf cs then some (v, cs.drop name.length) else none

/-- Parts with commas between them up to a closing bracket, one part at least, and what follows. -/
def parts? {α : Type} (part? : List Char → Option (α × List Char)) (close : Char) :
    (fuel : Nat) → List Char → Option (List α × List Char)
  | 0, _ => none
  | fuel + 1, cs => do
    let (part, rest) ← part? (trimmed cs)
    match trimmed rest with
    | [] => none
    | c :: rest =>
      if c = ',' then do
        let (parts, rest) ← parts? part? close fuel rest
        return (part :: parts, rest)
      else if c = close then some ([part], rest)
      else none

/-- The parts between brackets, the first of which has been read. -/
def enclosed? {α : Type} (part? : List Char → Option (α × List Char)) (close : Char) (cs : List Char) :
    Option (List α × List Char) :=
  if (trimmed cs).head? = some close then some ([], (trimmed cs).tail) else parts? part? close cs.length cs

/-- A key and its value, read as other values are. -/
def pair? (value? : List Char → Option (Value × List Char)) (cs : List Char) :
    Option ((Value × Value) × List Char) := do
  let (key, rest) ← string? (← readMark? '"' cs)
  let (value, rest) ← value? (trimmed (← readMark? ':' (trimmed rest)))
  return ((.str key, value), rest)

/-- The value at the front, and what follows. -/
def value? : (fuel : Nat) → List Char → Option (Value × List Char)
  | 0, _ => none
  | _, [] => none
  | fuel + 1, c :: rest =>
    if c = '"' then (string? rest).map fun (s, rest) => (.str s, rest)
    else if c = '[' then (enclosed? (value? fuel) ']' rest).map fun (items, rest) => (.list items, rest)
    else if c = '\x7b' then
      (enclosed? (pair? (value? fuel)) '\x7d' rest).map fun (entries, rest) =>
        (.dict (Value.entriesOf entries), rest)
    else number? (c :: rest) <|> named? (c :: rest)

end Reader

/-- The value that a whole text stands for. -/
def read? (cs : List Char) : Option Value := do
  let (v, rest) ← Reader.value? cs.length (Reader.trimmed cs)
  if (Reader.trimmed rest).isEmpty then some v else none

/-! ## Strings -/

/-- The ways in which a character of a string is written. -/
inductive Spelled (c : Char) : List Char → Prop where
  | plain (hmark : c ≠ '"') (hescape : c ≠ '\\') (hcontrol : 0x20 ≤ c.toNat) : Spelled c [c]
  | short (e : Char) (hresolved : Reader.escapeChar? e = some c) : Spelled c ['\\', e]
  | coded (hcontrol : c.toNat < 0x20) : Spelled c ('\\' :: 'u' :: Text.hex 4 c.toNat)

theorem escaped_spelled (c : Char) : Spelled c (escaped c) := by
  by_cases hshort : c ∈ ['"', '\\', '\x08', '\t', '\n', '\x0C', '\r']
  · simp only [List.mem_cons, List.not_mem_nil, or_false] at hshort
    rcases hshort with rfl | rfl | rfl | rfl | rfl | rfl | rfl
    · exact .short '"' rfl
    · exact .short '\\' rfl
    · exact .short 'b' rfl
    · exact .short 't' rfl
    · exact .short 'n' rfl
    · exact .short 'f' rfl
    · exact .short 'r' rfl
  · simp only [List.mem_cons, List.not_mem_nil, or_false, not_or] at hshort
    obtain ⟨hmark, hescape, hb, ht, hn, hf, hr⟩ := hshort
    have hb : c.toNat ≠ 8 := fun h => hb (Char.toNat_inj.mp h)
    have hf : c.toNat ≠ 12 := fun h => hf (Char.toNat_inj.mp h)
    by_cases hcontrol : c.toNat < 0x20
    · have hescaped : escaped c = '\\' :: 'u' :: Text.hex 4 c.toNat := by
        simp [escaped, hmark, hescape, hb, ht, hn, hf, hr, hcontrol]
      rw [hescaped]
      exact .coded hcontrol
    · have hescaped : escaped c = [c] := by
        simp [escaped, hmark, hescape, hb, ht, hn, hf, hr, hcontrol]
      rw [hescaped]
      exact .plain hmark hescape (by omega)

/-- A character that has a short escape, and the letter of the escape, are both in ASCII. -/
theorem ascii_of_escapeChar? {e c : Char} (h : Reader.escapeChar? e = some c) :
    0x20 ≤ e.toNat ∧ e.toNat < 0x80 ∧ c.toNat < 0x80 := by
  unfold Reader.escapeChar? at h
  split at h
  all_goals
    cases h
    try decide

/-- What four hexadecimal digits that stand for a control character are. -/
structure CodeFacts (n : ℕ) : Prop where
  length : (Text.hex 4 n).length = 4
  number : Toml.hexNumber? (Text.hex 4 n) = some n
  digits : ∀ d ∈ Text.hex 4 n, 0x20 ≤ d.toNat ∧ d.toNat < 0x80 ∧ d ≠ '\\' ∧ d ≠ '"'

theorem codeFacts {n : ℕ} (hn : n < 0x20) : CodeFacts n := by
  have hall : ∀ n < 0x20, ((Text.hex 4 n).length == 4 && Toml.hexNumber? (Text.hex 4 n) == some n &&
      (Text.hex 4 n).all fun d => decide (0x20 ≤ d.toNat) && decide (d.toNat < 0x80) &&
        d != '\\' && d != '"') = true := by
    decide +kernel
  have hfacts := hall n hn
  simp only [Bool.and_eq_true, beq_iff_eq, List.all_eq_true, decide_eq_true_eq, bne_iff_ne, and_assoc] at hfacts
  obtain ⟨hlength, hnumber, hdigits⟩ := hfacts
  exact ⟨hlength, hnumber, hdigits⟩

namespace Reader

theorem codeChar?_hex {c : Char} (hc : c.toNat < 0x20) (rest : List Char) :
    codeChar? (Text.hex 4 c.toNat ++ rest) = some (c, rest) := by
  have hfacts := codeFacts hc
  have hunit : codeUnit? (Text.hex 4 c.toNat ++ rest) = some (c.toNat, rest) := by
    unfold codeUnit?
    rw [List.length_append, hfacts.length, if_neg (by omega), List.take_left' hfacts.length,
      List.drop_left' hfacts.length, hfacts.number]
    rfl
  have hvalid : c.toNat.isValidChar := c.valid
  unfold codeChar?
  rw [hunit]
  simp [hvalid, Char.ofNat_toNat]

/-- A character that is written is read again. -/
theorem char?_escaped (c : Char) (rest : List Char) : char? (escaped c ++ rest) = some (c, rest) := by
  have hspelled := escaped_spelled c
  generalize escaped c = w at hspelled
  cases hspelled with
  | plain hmark hescape hcontrol =>
    have hcontrol : ¬ c.toNat < 0x20 := by omega
    simp [char?, hescape, hcontrol]
  | short e hresolved =>
    have hu : e ≠ 'u' := by
      rintro rfl
      cases hresolved
    simp [char?, hu, hresolved]
  | coded hcontrol => exact codeChar?_hex hcontrol rest

/-- No character is written so that it begins with a quotation mark. -/
theorem head?_escaped (c : Char) (rest : List Char) : (escaped c ++ rest).head? ≠ some '"' := by
  have hspelled := escaped_spelled c
  generalize escaped c = w at hspelled
  cases hspelled with
  | plain hmark _ _ => simpa using hmark
  | short e _ => simp
  | coded _ => simp

theorem chars?_escaped (s rest : List Char) {fuel : ℕ} (hfuel : s.length < fuel) :
    chars? fuel (s.flatMap escaped ++ '"' :: rest) = some (s, rest) := by
  induction s generalizing fuel with
  | nil =>
    obtain ⟨fuel, rfl⟩ := Nat.exists_eq_succ_of_ne_zero (Nat.ne_of_gt hfuel)
    rfl
  | cons c s ih =>
    obtain ⟨fuel, rfl⟩ := Nat.exists_eq_succ_of_ne_zero (Nat.ne_of_gt (Nat.zero_lt_of_lt hfuel))
    rw [List.flatMap_cons, List.append_assoc, chars?, if_neg (head?_escaped c _), char?_escaped]
    simp [ih (Nat.lt_of_succ_lt_succ hfuel)]

theorem length_le_escaped (s : List Char) : s.length ≤ (s.flatMap escaped).length := by
  induction s with
  | nil => exact Nat.le_refl 0
  | cons c s ih =>
    have hpos : 0 < (escaped c).length := by
      have hspelled := escaped_spelled c
      generalize escaped c = w at hspelled
      cases hspelled <;> simp
    rw [List.flatMap_cons, List.length_append, List.length_cons]
    omega

/-- **A string that is written is read again.** -/
theorem string?_escaped (s : String) (rest : List Char) :
    string? (s.toList.flatMap escaped ++ '"' :: rest) = some (s, rest) := by
  have hfuel := length_le_escaped s.toList
  have hlength : s.toList.length < (s.toList.flatMap escaped ++ '"' :: rest).length := by
    rw [List.length_append, List.length_cons]
    omega
  rw [string?, chars?_escaped _ _ hlength, Option.map_some]
  simp

/-! ## Numbers -/

/-- What may stand behind a part of a text: nothing, a comma or a closing bracket. -/
def Delimited (rest : List Char) : Prop :=
  ∀ c, rest.head? = some c → c = ',' ∨ c = ']' ∨ c = '\x7d'

theorem delimited_nil : Delimited [] := nofun

theorem delimited_cons {c : Char} (h : c = ',' ∨ c = ']' ∨ c = '\x7d') (rest : List Char) : Delimited (c :: rest) := by
  rintro _ ⟨⟩
  exact h

section Delimited

variable {rest : List Char} (hrest : Delimited rest)

include hrest

/-- Nothing that a part of a text may go on with is at the front. -/
theorem Delimited.takeWhile_eq_nil {p : Char → Bool} (hp : p ',' = false ∧ p ']' = false ∧ p '\x7d' = false) :
    rest.takeWhile p = [] ∧ rest.dropWhile p = rest := by
  cases rest with
  | nil => exact ⟨rfl, rfl⟩
  | cons c rest =>
    have hc : p c = false := by
      rcases hrest c rfl with rfl | rfl | rfl
      · exact hp.1
      · exact hp.2.1
      · exact hp.2.2
    exact ⟨List.takeWhile_cons_of_neg (by simp [hc]), List.dropWhile_cons_of_neg (by simp [hc])⟩

theorem Delimited.trimmed_eq : trimmed rest = rest :=
  (hrest.takeWhile_eq_nil (by decide)).2

theorem Delimited.fraction_eq : fraction rest = ([], rest) := by
  have hpoint : rest.head? ≠ some '.' := by
    intro h
    rcases hrest _ h with h | h | h <;> cases h
  simp [fraction, hpoint]

theorem Delimited.power_eq : power rest = ([], rest) := by
  obtain ⟨hmark, _⟩ := hrest.takeWhile_eq_nil (p := fun c => c == 'e' || c == 'E') (by decide)
  simp [power, hmark]

/-- A run of digits ends where the part ends. -/
theorem Delimited.digits_eq (n : ℕ) :
    (Nat.toDigits 10 n ++ rest).takeWhile Char.isDigit = Nat.toDigits 10 n ∧
      (Nat.toDigits 10 n ++ rest).dropWhile Char.isDigit = rest := by
  obtain ⟨htake, hdrop⟩ := @Delimited.takeWhile_eq_nil rest hrest Char.isDigit (by decide)
  have hdigits : ∀ c ∈ Nat.toDigits 10 n, c.isDigit = true :=
    fun c hc => Nat.isDigit_of_mem_toDigits (by decide) (by decide) hc
  rw [List.takeWhile_append_of_pos hdigits, List.dropWhile_append_of_pos hdigits, htake, hdrop, List.append_nil]
  exact ⟨rfl, rfl⟩

end Delimited

/-- A number is written without a zero at the front. -/
theorem head?_toDigits {n : ℕ} (hn : n ≠ 0) : (Nat.toDigits 10 n).head? ≠ some '0' := by
  induction n using Nat.strong_induction_on with
  | _ n ih =>
    rw [Nat.toDigits_eq_if (by decide)]
    split
    · interval_cases n <;> simp_all [Nat.digitChar]
    · have hpos : n / 10 ≠ 0 := by omega
      rw [List.head?_append_of_ne_nil _ Nat.toDigits_ne_nil]
      exact ih (n / 10) (by omega) hpos

theorem whole?_toDigits (n : ℕ) {rest : List Char} (hrest : Delimited rest) :
    whole? (Nat.toDigits 10 n ++ rest) = some (Nat.toDigits 10 n, rest) := by
  obtain ⟨htake, hdrop⟩ := hrest.digits_eq n
  unfold whole?
  rw [htake, hdrop]
  by_cases hn : n = 0
  · subst hn
    rfl
  · have hhead := head?_toDigits hn
    split
    · rename_i hnil
      exact absurd hnil Nat.toDigits_ne_nil
    · rename_i hzero
      rw [hzero] at hhead
      exact absurd rfl hhead
    · rfl

-- the bound on digits is a number that must not be written out
attribute [local irreducible] Text.maxDigits

theorem length_toDigits_le {n : ℤ} (hn : Text.oversized n = false) :
    (Nat.toDigits 10 n.natAbs).length ≤ Text.maxDigits := by
  have hbound : n.natAbs < 10 ^ Text.maxDigits := by
    rw [Text.oversized, decide_eq_false_iff_not, not_le] at hn
    exact hn
  have hpos : 0 < Text.maxDigits := by
    unfold Text.maxDigits
    decide
  exact (Nat.length_toDigits_le_iff (by decide) hpos).mpr hbound

/-- The text of an integer is its digits, with a sign in front of them where it is negative. -/
theorem toList_toString (n : ℤ) :
    (toString n).toList = (if n < 0 then ['-'] else []) ++ Nat.toDigits 10 n.natAbs := by
  rw [Int.toString_eq_repr, Int.repr_eq_if]
  by_cases hn : 0 ≤ n
  · have hnat : n.toNat = n.natAbs := by omega
    rw [if_pos hn, if_neg (by omega), hnat, Nat.repr_eq_ofList_toDigits, String.toList_ofList, List.nil_append]
  · have hnat : (-n).toNat = n.natAbs := by omega
    rw [if_neg hn, if_pos (by omega), hnat, Nat.repr_eq_ofList_toDigits, String.toList_append, String.toList_ofList]
    simp

/-- Digits with a sign perhaps are read as the integer that they stand for. -/
theorem number?_toDigits (negative : Bool) {n : ℕ} (hn : (Nat.toDigits 10 n).length ≤ Text.maxDigits)
    {rest : List Char} (hrest : Delimited rest) :
    number? ((if negative then ['-'] else []) ++ (Nat.toDigits 10 n ++ rest)) =
      some (.int (if negative then -n else n), rest) := by
  have hlength : ¬ Text.maxDigits < (Nat.toDigits 10 n).length := by omega
  have hwhole := whole?_toDigits n hrest
  have hhead : (Nat.toDigits 10 n ++ rest).head? ≠ some '-' := by
    rw [List.head?_append_of_ne_nil _ Nat.toDigits_ne_nil]
    intro hhead
    have hdigit := Nat.isDigit_of_mem_toDigits (by decide) (by decide) (List.mem_of_head? hhead)
    cases hdigit
  have hvalue : Nat.ofDigitChars 10 (Nat.toDigits 10 n) 0 = n := Nat.ofDigitChars_ten_toDigits
  generalize Nat.toDigits 10 n ++ rest = cs at hwhole hhead ⊢
  cases negative <;>
    simp [number?, hhead, hwhole, hrest.fraction_eq, hrest.power_eq, hlength, hvalue]

/-- **An integer that is written is read again.** -/
theorem number?_integer {n : ℤ} (hn : Text.oversized n = false) {rest : List Char} (hrest : Delimited rest) :
    number? ((toString n).toList ++ rest) = some (.int n, rest) := by
  have hsign : (if decide (n < 0) then -(n.natAbs : ℤ) else n.natAbs) = n := by
    simp only [decide_eq_true_eq]
    split <;> omega
  have hread := number?_toDigits (decide (n < 0)) (length_toDigits_le hn) hrest
  rw [hsign] at hread
  rw [toList_toString, List.append_assoc]
  simpa only [decide_eq_true_eq] using hread

/-- The text of an integer begins with its sign or a digit. -/
theorem head_integer (n : ℤ) : ∃ c cs, (toString n).toList = c :: cs ∧ (c == '-' || c.isDigit) = true := by
  rw [toList_toString]
  split
  · exact ⟨_, _, rfl, rfl⟩
  · obtain ⟨c, cs, hcs⟩ := List.exists_cons_of_ne_nil (@Nat.toDigits_ne_nil n.natAbs 10)
    have hdigit := Nat.isDigit_of_mem_toDigits (by decide) (by decide) (hcs ▸ List.mem_cons_self)
    exact ⟨c, cs, hcs, by rw [hdigit, Bool.or_true]⟩

end Reader

/-! ## Parts between brackets -/

@[simp] theorem commas_nil : commas [] = [] := rfl

@[simp] theorem commas_singleton (t : List Char) : commas [t] = t := by
  simp [commas]

@[simp] theorem commas_cons_cons (t u : List Char) (us : List (List Char)) :
    commas (t :: u :: us) = t ++ ',' :: commas (u :: us) := by
  simp [commas]

theorem length_le_commas (ts : List (List Char)) : ts.length ≤ (commas ts).length + 1 := by
  induction ts with
  | nil => exact Nat.zero_le _
  | cons t ts ih =>
    cases ts with
    | nil => exact Nat.le_add_left 1 _
    | cons u us =>
      simp only [commas_cons_cons, List.length_append, List.length_cons] at ih ⊢
      omega

/-- Every text is a part of what is joined. -/
theorem length_le_commas_of_mem {t : List Char} {ts : List (List Char)} (ht : t ∈ ts) :
    t.length ≤ (commas ts).length := by
  induction ts with
  | nil => exact absurd ht List.not_mem_nil
  | cons s ts ih =>
    cases ts with
    | nil =>
      rw [List.mem_singleton.mp ht, commas_singleton]
    | cons u us =>
      rw [commas_cons_cons, List.length_append, List.length_cons]
      rcases List.mem_cons.mp ht with rfl | ht
      · omega
      · have hle := ih ht
        omega

namespace Reader

/-- A key and its value are read when the value is. -/
theorem pair?_written (key : String) {value? : List Char → Option (Value × List Char)} {cs rest : List Char}
    {v : Value} (hvalue : value? (trimmed cs) = some (v, rest)) :
    pair? value? ('"' :: (key.toList.flatMap escaped ++ '"' :: ':' :: cs)) = some ((.str key, v), rest) := by
  have hkey := string?_escaped key (':' :: cs)
  have hcolon : trimmed (':' :: cs) = ':' :: cs := rfl
  refine Option.bind_eq_some_iff.mpr ⟨_, hkey, ?_⟩
  refine Option.bind_eq_some_iff.mpr ⟨cs, ?_, ?_⟩
  · rw [hcolon, readMark?, if_pos rfl]
  · exact Option.bind_eq_some_iff.mpr ⟨_, hvalue, rfl⟩

section Parts

variable {α β : Type} {part? : List Char → Option (α × List Char)} {close : Char} {text : β → List Char}
  {result : β → α} {items : List β} (hclose : close = ']' ∨ close = '\x7d')
  (hpart : ∀ b ∈ items, ∀ rest, Delimited rest → part? (trimmed (text b ++ rest)) = some (result b, rest))

include hclose hpart

theorem parts?_commas (hitems : items ≠ []) {fuel : ℕ} (hfuel : items.length ≤ fuel) (rest : List Char) :
    parts? part? close fuel (commas (items.map text) ++ close :: rest) = some (items.map result, rest) := by
  have hdelimited := delimited_cons (.inr hclose) rest
  have hcomma : close ≠ ',' := by rcases hclose with rfl | rfl <;> decide
  induction items generalizing fuel with
  | nil => exact absurd rfl hitems
  | cons b items ih =>
    obtain ⟨fuel, rfl⟩ := Nat.exists_eq_succ_of_ne_zero fun h : fuel = 0 => by rw [h] at hfuel; cases hfuel
    obtain ⟨hb, hpart⟩ := List.forall_mem_cons.mp hpart
    cases items with
    | nil =>
      rw [List.map_singleton, commas_singleton, parts?, hb _ hdelimited]
      simp [hdelimited.trimmed_eq, hcomma]
    | cons b' items =>
      have hread := ih hpart (List.cons_ne_nil _ _) (Nat.le_of_succ_le_succ hfuel)
      have hjoined : commas ((b :: b' :: items).map text) ++ close :: rest =
          text b ++ ',' :: (commas ((b' :: items).map text) ++ close :: rest) := by
        rw [List.map_cons, List.map_cons, commas_cons_cons, List.append_assoc]
        rfl
      rw [hjoined]
      generalize commas ((b' :: items).map text) ++ close :: rest = more at hread
      have hdelimited := delimited_cons (.inl rfl) more
      rw [parts?, hb _ hdelimited]
      simp [hdelimited.trimmed_eq, hread]

/-- **Parts that are written with commas between them are read again**, when each of them is. -/
theorem enclosed?_commas
    (hhead : ∀ b ∈ items, ∀ rest, (trimmed (text b ++ rest)).head? ≠ some close) (rest : List Char) :
    enclosed? part? close (commas (items.map text) ++ close :: rest) = some (items.map result, rest) := by
  unfold enclosed?
  cases items with
  | nil =>
    rw [List.map_nil, commas_nil, List.nil_append, (delimited_cons (.inr hclose) rest).trimmed_eq]
    simp
  | cons b items =>
    have hfuel := length_le_commas ((b :: items).map text)
    rw [List.length_map] at hfuel
    have hfirst : ∃ more, commas ((b :: items).map text) ++ close :: rest = text b ++ more := by
      cases items with
      | nil => exact ⟨_, by rw [List.map_singleton, commas_singleton]⟩
      | cons b' items => exact ⟨_, by rw [List.map_cons, List.map_cons, commas_cons_cons, List.append_assoc]⟩
    obtain ⟨more, hmore⟩ := hfirst
    rw [if_neg (hmore ▸ hhead b List.mem_cons_self more)]
    refine parts?_commas hclose hpart (List.cons_ne_nil _ _) ?_ rest
    simp only [List.length_append, List.length_cons] at hfuel ⊢
    omega

end Parts

end Reader

end WordLint.Json
