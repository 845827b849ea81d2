import WordLint.Proofs.Text.Characters
import WordLint.Proofs.Value.JsonReader

/-!
# The text of simple values

A value made of null, truth values, integers, strings, lists, tuples and dictionaries with string keys (`Simple`)
is written as JSON in one way only, whatever containers are around it (`compact`, `Simple.write?_eq`).

Its text is made of strings and of runs of plain characters (`Simple.of_pieces`). So what holds of these and of
two texts in a row holds of all of it: it has no blank outside its strings (`Simple.clear`) and no control
character (`Simple.no_control`). The characters beyond ASCII in it are those of the strings inside the value
(`Simple.filter_compact`).
-/

namespace WordLint

open Json (commas string)

namespace Value

/-! ## Values of a simple kind -/

/-- A value made of what JSON has forms for, tuples among it, with no integer that is too long to be written. -/
inductive Simple : Value → Prop where
  | none : Simple .none
  | bool (b : Bool) : Simple (.bool b)
  | int {n : ℤ} (hn : Text.oversized n = false) : Simple (.int n)
  | str (s : String) : Simple (.str s)
  | list {xs : List Value} (hxs : ∀ x ∈ xs, Simple x) : Simple (.list xs)
  | tuple {xs : List Value} (hxs : ∀ x ∈ xs, Simple x) : Simple (.tuple xs)
  | dict {es : List (String × Value)} (hkeys : (es.map Prod.fst).Nodup) (hes : ∀ e ∈ es, Simple e.2) :
    Simple (.dict (es.map fun e => (.str e.1, e.2)))

mutual

/-- A value with lists in the place of tuples. -/
def listed : Value → Value
  | .list xs | .tuple xs => .list (listedItems xs)
  | .dict es => .dict (listedEntries es)
  | v => v

/-- Items with lists in the place of tuples. -/
def listedItems : List Value → List Value
  | [] => []
  | x :: xs => x.listed :: listedItems xs

/-- Entries with lists in the place of tuples. -/
def listedEntries : List (Value × Value) → List (Value × Value)
  | [] => []
  | (k, v) :: es => (k, v.listed) :: listedEntries es

end

mutual

/-- The characters of the strings inside a value, keys among them, in their order. -/
def characters : Value → List Char
  | .str s => s.toList
  | .list xs | .tuple xs => charactersOfItems xs
  | .dict es => charactersOfEntries es
  | _ => []

/-- The characters of the strings inside some items. -/
def charactersOfItems : List Value → List Char
  | [] => []
  | x :: xs => x.characters ++ charactersOfItems xs

/-- The characters of the strings inside some entries. -/
def charactersOfEntries : List (Value × Value) → List Char
  | [] => []
  | (k, v) :: es => k.characters ++ v.characters ++ charactersOfEntries es

end

mutual

/-- A simple value as JSON. -/
def compact : Value → List Char
  | .none => Json.null
  | .bool b => Json.truth b
  | .int n => (toString n).toList
  | .str s => string s
  | .list xs | .tuple xs => '[' :: commas (compactItems xs) ++ [']']
  | .dict es => '\x7b' :: commas (compactEntries es) ++ ['\x7d']
  | _ => []

/-- Some items as JSON. -/
def compactItems : List Value → List (List Char)
  | [] => []
  | x :: xs => x.compact :: compactItems xs

/-- Some entries as JSON. -/
def compactEntries : List (Value × Value) → List (List Char)
  | [] => []
  | (k, v) :: es => (k.compact ++ ':' :: v.compact) :: compactEntries es

end

/-- An entry with a string as its key, as JSON. -/
def compactEntry (e : String × Value) : List Char :=
  string e.1 ++ ':' :: e.2.compact

section Equations

variable (xs : List Value) (es : List (String × Value))

@[simp] theorem listedItems_eq : listedItems xs = xs.map listed := by
  induction xs with
  | nil => rfl
  | cons x xs ih => rw [listedItems, ih, List.map_cons]

@[simp] theorem listedEntries_eq :
    listedEntries (es.map fun e => (.str e.1, e.2)) = es.map fun e => (.str e.1, e.2.listed) := by
  induction es with
  | nil => rfl
  | cons e es ih => rw [List.map_cons, listedEntries, ih, List.map_cons]

@[simp] theorem charactersOfItems_eq : charactersOfItems xs = xs.flatMap characters := by
  induction xs with
  | nil => rfl
  | cons x xs ih => rw [charactersOfItems, ih, List.flatMap_cons]

@[simp] theorem charactersOfEntries_eq :
    charactersOfEntries (es.map fun e => (.str e.1, e.2)) = es.flatMap fun e => e.1.toList ++ e.2.characters := by
  induction es with
  | nil => rfl
  | cons e es ih => rw [List.map_cons, charactersOfEntries, ih, List.flatMap_cons, characters]

@[simp] theorem compactItems_eq : compactItems xs = xs.map compact := by
  induction xs with
  | nil => rfl
  | cons x xs ih => rw [compactItems, ih, List.map_cons]

@[simp] theorem compactEntries_eq :
    compactEntries (es.map fun e => (.str e.1, e.2)) = es.map compactEntry := by
  induction es with
  | nil => rfl
  | cons e es ih => rw [List.map_cons, compactEntries, ih, List.map_cons, compact, compactEntry]

end Equations

/-! ## The one way to write a simple value -/

theorem writeItems?_eq {xs : List Value}
    (hxs : ∀ x ∈ xs, ∀ around route, Json.write? around route x = some x.compact)
    (around : List Container) (route : Route) (i : ℕ) :
    Json.writeItems? around route i xs = some (xs.map compact) := by
  induction xs generalizing i with
  | nil => rw [Json.writeItems?, List.map_nil]
  | cons x xs ih =>
    obtain ⟨hx, hxs⟩ := List.forall_mem_cons.mp hxs
    rw [Json.writeItems?, hx, ih hxs]
    rfl

theorem writeEntries?_eq {es : List (String × Value)}
    (hes : ∀ e ∈ es, ∀ around route, Json.write? around route e.2 = some e.2.compact)
    (around : List Container) (route : Route) (i : ℕ) :
    Json.writeEntries? around route i (es.map fun e => (.str e.1, e.2)) =
      some (es.map compactEntry) := by
  induction es generalizing i with
  | nil => rw [List.map_nil, Json.writeEntries?, List.map_nil]
  | cons e es ih =>
    obtain ⟨he, hes⟩ := List.forall_mem_cons.mp hes
    rw [List.map_cons, Json.writeEntries?, he, ih hes]
    rfl

/-- A simple value is written in the same way inside any containers. -/
theorem Simple.write?_eq {v : Value} (hv : v.Simple) :
    ∀ around route, Json.write? around route v = some v.compact := by
  induction hv with
  | none => exact fun _ _ => by rw [Json.write?, compact]
  | bool b => exact fun _ _ => by rw [Json.write?, compact]
  | int hn => exact fun _ _ => by rw [Json.write?, Json.integer?, hn, compact, if_neg Bool.false_ne_true]
  | str s => exact fun _ _ => by rw [Json.write?, compact]
  | list _ ih =>
    intro around route
    rw [Json.write?, writeItems?_eq ih, compact, compactItems_eq]
    rfl
  | tuple _ ih =>
    intro around route
    rw [Json.write?, writeItems?_eq ih, compact, compactItems_eq]
    rfl
  | dict _ _ ih =>
    intro around route
    rw [Json.write?, writeEntries?_eq ih, compact, compactEntries_eq]
    rfl

theorem Simple.serialize_eq {v : Value} (hv : v.Simple) : v.serialize = .ok (String.ofList v.compact) := by
  rw [serialize, hv.write?_eq]

end Value

/-! ## The pieces of a text -/

namespace Json

/-- A plain character: it is in ASCII, and no control character, blank or quotation mark. -/
def isPlain (c : Char) : Bool :=
  0x20 < c.toNat && c.toNat < 0x80 && c != '"'

theorem isPlain_iff {c : Char} : isPlain c = true ↔ 0x20 < c.toNat ∧ c.toNat < 0x80 ∧ c ≠ '"' := by
  simp [isPlain, and_assoc]

theorem isPlain_of_isDigit {c : Char} (hc : c.isDigit = true) : isPlain c = true := by
  have hascii := Text.toNat_lt_of_isAlphanum (c := c) (by simp [Char.isAlphanum, hc])
  exact Text.forall_ascii (P := fun c => c.isDigit = true → isPlain c = true) (by decide +kernel) hascii hc

theorem all_isPlain_integer (n : ℤ) : (toString n).toList.all isPlain = true := by
  have hdigits : (Nat.toDigits 10 n.natAbs).all isPlain = true :=
    List.all_eq_true.mpr fun c hc =>
      isPlain_of_isDigit (Nat.isDigit_of_mem_toDigits (by decide) (by decide) hc)
  rw [Reader.toList_toString, List.all_append, hdigits, Bool.and_true]
  split <;> decide

end Json

section Pieces

variable {P : List Char → Prop} (append : ∀ a b, P a → P b → P (a ++ b))
  (plain : ∀ cs : List Char, cs.all Json.isPlain = true → P cs) (text : ∀ s, P (string s))

include append plain

theorem Json.commas_of_pieces {ts : List (List Char)} (hts : ∀ t ∈ ts, P t) : P (commas ts) := by
  induction ts with
  | nil => exact plain [] rfl
  | cons t ts ih =>
    obtain ⟨ht, hts⟩ := List.forall_mem_cons.mp hts
    cases ts with
    | nil => rwa [Json.commas_singleton]
    | cons u us =>
      rw [Json.commas_cons_cons, ← List.singleton_append]
      exact append _ _ ht (append _ _ (plain [','] rfl) (ih hts))

include text

/-- The text of a simple value is put together from strings and runs of plain characters. -/
theorem Value.Simple.of_pieces {v : Value} (hv : v.Simple) : P v.compact := by
  induction hv with
  | none => exact plain _ rfl
  | bool b => exact plain _ (by cases b <;> rfl)
  | int _ => exact plain _ (Json.all_isPlain_integer _)
  | str s => exact text s
  | list _ ih | tuple _ ih =>
    rw [compact, compactItems_eq]
    have hitems := Json.commas_of_pieces append plain (List.forall_mem_map.mpr ih)
    exact append _ _ (append ['['] _ (plain _ rfl) hitems) (plain [']'] rfl)
  | dict _ _ ih =>
    rw [compact, compactEntries_eq]
    have hentries := Json.commas_of_pieces append plain (List.forall_mem_map.mpr fun e he =>
      append _ _ (text e.1) (append [':'] _ (plain _ rfl) (ih e he)))
    exact append _ _ (append ['\x7b'] _ (plain _ rfl) hentries) (plain ['\x7d'] rfl)

end Pieces

/-! ## Blanks and control characters -/

namespace Json

/-- The characters of a text that stand outside its strings, from a place that is inside a string or not. -/
def outside : (inside : Bool) → List Char → List Char
  | _, [] => []
  | false, c :: rest => c :: outside (c == '"') rest
  | true, '\\' :: _ :: rest => outside true rest
  | true, c :: rest => outside (c != '"') rest

theorem isBlank_of_isPlain {c : Char} (hc : isPlain c = true) : isBlank c = false := by
  obtain ⟨hblank, hascii, _⟩ := isPlain_iff.mp hc
  exact Text.forall_ascii (P := fun c => 0x20 < c.toNat → isBlank c = false) (by decide +kernel) hascii hblank

/-- No blank stands outside the strings of a text. -/
def Clear (cs : List Char) : Prop :=
  ∀ c ∈ outside false cs, isBlank c = false

/-- A part of a text that has no blank outside its strings. -/
def Tight (cs : List Char) : Prop :=
  ∀ rest, Clear rest → Clear (cs ++ rest)

theorem Tight.append {a b : List Char} (ha : Tight a) (hb : Tight b) : Tight (a ++ b) := by
  intro rest hrest
  rw [List.append_assoc]
  exact ha _ (hb _ hrest)

theorem tight_plain {cs : List Char} (hcs : cs.all isPlain = true) : Tight cs := by
  induction cs with
  | nil => exact fun _ hrest => hrest
  | cons c cs ih =>
    rw [List.all_cons, Bool.and_eq_true] at hcs
    obtain ⟨hc, hcs⟩ := hcs
    intro rest hrest
    rw [Clear, List.cons_append, outside, beq_eq_false_iff_ne.mpr (isPlain_iff.mp hc).2.2]
    exact List.forall_mem_cons.mpr ⟨isBlank_of_isPlain hc, ih hcs rest hrest⟩

/-- Characters inside a string that are no escapes and no marks do not count as outside of it. -/
theorem outside_run {cs : List Char} (hcs : ∀ c ∈ cs, c ≠ '\\' ∧ c ≠ '"') (rest : List Char) :
    outside true (cs ++ rest) = outside true rest := by
  induction cs with
  | nil => rfl
  | cons c cs ih =>
    obtain ⟨⟨hescape, hmark⟩, hcs⟩ := List.forall_mem_cons.mp hcs
    rw [List.cons_append, outside, bne_iff_ne.mpr hmark, ih hcs]
    exact fun _ _ h _ => absurd h hescape

theorem outside_escaped (c : Char) (rest : List Char) : outside true (escaped c ++ rest) = outside true rest := by
  have hspelled := escaped_spelled c
  generalize escaped c = w at hspelled
  cases hspelled with
  | plain hmark hescape _ => exact outside_run (List.forall_mem_singleton.mpr ⟨hescape, hmark⟩) rest
  | short e _ => rw [List.cons_append, List.cons_append, outside, List.nil_append]
  | coded hcontrol =>
    rw [List.cons_append, List.cons_append, outside]
    exact outside_run (fun d hd => ((codeFacts hcontrol).digits d hd).2.2) rest

/-- A string ends at the mark behind it. -/
theorem outside_string (cs rest : List Char) :
    outside true (cs.flatMap escaped ++ '"' :: rest) = outside false rest := by
  induction cs with
  | nil =>
    rw [List.flatMap_nil, List.nil_append, outside]
    · rfl
    · nofun
  | cons c cs ih => rw [List.flatMap_cons, List.append_assoc, outside_escaped, ih]

theorem tight_string (s : String) : Tight (string s) := by
  intro rest hrest
  have hstring : string s ++ rest = '"' :: (s.toList.flatMap escaped ++ '"' :: rest) := by
    simp [string]
  rw [Clear, hstring, outside, beq_self_eq_true, outside_string]
  exact List.forall_mem_cons.mpr ⟨by decide, hrest⟩

/-- No control character is written as it is. -/
theorem no_control_escaped (c : Char) : ∀ d ∈ escaped c, 0x20 ≤ d.toNat := by
  have hspelled := escaped_spelled c
  generalize escaped c = w at hspelled
  cases hspelled with
  | plain _ _ hcontrol => simpa using hcontrol
  | short e hresolved => simpa using (ascii_of_escapeChar? hresolved).1
  | coded hcontrol => simpa using fun d hd => ((codeFacts hcontrol).digits d hd).1

theorem no_control_string (s : String) : ∀ c ∈ string s, 0x20 ≤ c.toNat := by
  intro c hc
  simp only [string, List.mem_append, List.mem_cons, List.mem_flatMap, List.not_mem_nil, or_false] at hc
  rcases hc with (rfl | ⟨d, _, hc⟩) | rfl
  · decide
  · exact no_control_escaped d c hc
  · decide

end Json

namespace Value

variable {v : Value}

/-- No blank stands between the parts of the text of a simple value. -/
theorem Simple.clear (hv : v.Simple) : Json.Clear v.compact := by
  have htight : Json.Tight v.compact :=
    hv.of_pieces (fun _ _ ha hb => ha.append hb) (fun _ hcs => Json.tight_plain hcs) Json.tight_string
  have hclear := htight [] nofun
  rwa [List.append_nil] at hclear

/-- The text of a simple value has no control character in it. -/
theorem Simple.no_control (hv : v.Simple) : ∀ c ∈ v.compact, 0x20 ≤ c.toNat := by
  refine hv.of_pieces (P := fun cs => ∀ c ∈ cs, 0x20 ≤ c.toNat) (fun _ _ ha hb => ?_) (fun cs hcs c hc => ?_)
    Json.no_control_string
  · exact List.forall_mem_append.mpr ⟨ha, hb⟩
  · exact Nat.le_of_lt (Json.isPlain_iff.mp (List.all_eq_true.mp hcs c hc)).1

end Value

/-! ## Characters beyond ASCII -/

namespace Json

/-- A character beyond ASCII. -/
def isForeign (c : Char) : Bool :=
  0x80 ≤ c.toNat

theorem filter_ascii {cs : List Char} (hcs : ∀ c ∈ cs, c.toNat < 0x80) : cs.filter isForeign = [] := by
  refine List.filter_eq_nil_iff.mpr fun c hc => ?_
  rw [isForeign, decide_eq_true_eq, not_le]
  exact hcs c hc

theorem filter_plain {cs : List Char} (hcs : cs.all isPlain = true) : cs.filter isForeign = [] :=
  filter_ascii fun c hc => (isPlain_iff.mp (List.all_eq_true.mp hcs c hc)).2.1

/-- Only characters of ASCII have escapes, and an escape is made of such characters. -/
theorem filter_escaped (c : Char) : (escaped c).filter isForeign = [c].filter isForeign := by
  have hspelled := escaped_spelled c
  generalize escaped c = w at hspelled
  cases hspelled with
  | plain _ _ _ => rfl
  | short e hresolved =>
    obtain ⟨_, he, hc⟩ := ascii_of_escapeChar? hresolved
    rw [@filter_ascii ['\\', e] (by simpa using he), @filter_ascii [c] (by simpa using hc)]
  | coded hcontrol =>
    have hdigits : ∀ d ∈ Text.hex 4 c.toNat, d.toNat < 0x80 := fun d hd => ((codeFacts hcontrol).digits d hd).2.1
    rw [@filter_ascii [c] (List.forall_mem_singleton.mpr (by omega))]
    exact filter_ascii (by simpa using hdigits)

theorem filter_flatMap_escaped (cs : List Char) : (cs.flatMap escaped).filter isForeign = cs.filter isForeign := by
  induction cs with
  | nil => rfl
  | cons c cs ih =>
    rw [List.flatMap_cons, List.filter_append, filter_escaped, ih, ← List.filter_append]
    rfl

theorem filter_string (s : String) : (string s).filter isForeign = s.toList.filter isForeign := by
  rw [string, List.filter_append, List.filter_cons_of_neg (by decide), filter_flatMap_escaped]
  exact List.append_nil _

theorem filter_commas (ts : List (List Char)) :
    (commas ts).filter isForeign = ts.flatMap fun t => t.filter isForeign := by
  induction ts with
  | nil => rfl
  | cons t ts ih =>
    cases ts with
    | nil => simp
    | cons u us =>
      rw [commas_cons_cons, List.filter_append, List.filter_cons_of_neg (by decide), ih]
      rfl

end Json

namespace Value

/-- Characters beyond ASCII are written as they are. -/
theorem Simple.filter_compact {v : Value} (hv : v.Simple) :
    v.compact.filter Json.isForeign = v.characters.filter Json.isForeign := by
  induction hv with
  | none => rfl
  | bool b => cases b <;> rfl
  | int _ => exact Json.filter_plain (Json.all_isPlain_integer _)
  | str s => exact Json.filter_string s
  | list _ ih | tuple _ ih =>
    rw [compact, compactItems_eq, characters, charactersOfItems_eq, List.filter_append,
      List.filter_cons_of_neg (by decide), Json.filter_commas, List.flatMap_map, List.filter_flatMap,
      List.flatMap_congr ih]
    exact List.append_nil _
  | dict _ _ ih =>
    rw [compact, compactEntries_eq, characters, charactersOfEntries_eq, List.filter_append,
      List.filter_cons_of_neg (by decide), Json.filter_commas, List.flatMap_map, List.filter_flatMap]
    refine (List.append_nil _).trans (List.flatMap_congr fun e he => ?_)
    rw [compactEntry, List.filter_append, List.filter_append, Json.filter_string, List.filter_cons_of_neg (by decide), ih e he]

end Value

end WordLint
