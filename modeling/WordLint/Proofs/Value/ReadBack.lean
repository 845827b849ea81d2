import WordLint.Proofs.Rule.Groups
import WordLint.Proofs.Value.Compact

/-!
# Values that are read back

**The law** (`echo_reads_back`): a reader of JSON reads the text of a simple value as the value, with lists in the
place of tuples (`listed`). So two such values that are refused are shown alike exactly when they are alike in this
sense.

It is an induction on the value (`Simple.readsBack`), whose step for containers is the law about parts between
brackets; the keys of a dictionary are set one after the other, and as no two of them are the same they stay in
their order (`entriesOf_eq`).
-/

namespace WordLint

open Json (commas string)
open Json.Reader (Delimited trimmed value? pair? enclosed? enclosed?_commas)

namespace Value

/-! ## Entries that are set one after the other -/

/-- A key that is not there yet is set at the end. -/
theorem insertEntry_new {es : List (Value × Value)} {k v : Value} (hnew : ∀ e ∈ es, e.1.sameKey k = false) :
    insertEntry k v es = es ++ [(k, v)] := by
  induction es with
  | nil => rfl
  | cons e es ih =>
    obtain ⟨he, hes⟩ := List.forall_mem_cons.mp hnew
    rw [insertEntry, he, ih hes]
    rfl

theorem foldl_insertEntry {before es : List (Value × Value)}
    (h : (before ++ es).Pairwise fun a b => a.1.sameKey b.1 = false) :
    es.foldl (fun es p => insertEntry p.1 p.2 es) before = before ++ es := by
  induction es generalizing before with
  | nil => rw [List.foldl_nil, List.append_nil]
  | cons e es ih =>
    have hnew : ∀ a ∈ before, a.1.sameKey e.1 = false :=
      fun a ha => (List.pairwise_append.mp h).2.2 a ha e List.mem_cons_self
    rw [List.append_cons] at h ⊢
    rw [List.foldl_cons, insertEntry_new hnew, ih h]

/-- Entries whose keys are different strings stay as they are when they are set one after the other. -/
theorem entriesOf_eq {es : List (String × Value)} (hkeys : (es.map Prod.fst).Nodup) :
    entriesOf (es.map fun e => (.str e.1, e.2)) = es.map fun e => (.str e.1, e.2) := by
  refine foldl_insertEntry (List.pairwise_map.mpr ((List.pairwise_map.mp hkeys).imp fun hne => ?_))
  simpa [sameKey] using hne

/-! ## Reading -/

/-- A value whose text is read as the value, with lists in the place of tuples, whatever follows. -/
def ReadsBack (v : Value) : Prop :=
  ∀ (fuel : ℕ) (rest : List Char), v.compact.length ≤ fuel → Delimited rest →
    value? fuel (v.compact ++ rest) = some (v.listed, rest)

/-- The text of a simple value begins with no blank, and with none of the closing brackets. -/
theorem Simple.head_compact {v : Value} (hv : v.Simple) :
    ∃ c cs, v.compact = c :: cs ∧ Json.isBlank c = false ∧ c ≠ ']' := by
  cases hv with
  | none => exact ⟨_, _, rfl, by decide, by decide⟩
  | bool b => cases b <;> exact ⟨_, _, rfl, by decide, by decide⟩
  | int _ =>
    obtain ⟨c, cs, hcs, hc⟩ := Json.Reader.head_integer _
    refine ⟨c, cs, hcs, ?_, ?_⟩
    · have hplain : Json.isPlain c = true :=
        List.all_eq_true.mp (Json.all_isPlain_integer _) c (hcs ▸ List.mem_cons_self)
      exact Json.isBlank_of_isPlain hplain
    · rintro rfl
      cases hc
  | str s => exact ⟨_, _, rfl, by decide, by decide⟩
  | list _ | tuple _ => exact ⟨'[', _, by rw [compact]; rfl, by decide, by decide⟩
  | dict _ _ => exact ⟨'\x7b', _, by rw [compact]; rfl, by decide, by decide⟩

theorem Simple.trimmed_compact {v : Value} (hv : v.Simple) (rest : List Char) :
    trimmed (v.compact ++ rest) = v.compact ++ rest := by
  obtain ⟨c, cs, hcs, hblank, _⟩ := hv.head_compact
  rw [hcs]
  exact List.dropWhile_cons_of_neg (by simp [hblank])

section Containers

variable {fuel : ℕ} (rest : List Char)

/-- The items of a list or a tuple are read when each of them is. -/
theorem enclosed?_items {xs : List Value} (hxs : ∀ x ∈ xs, x.Simple) (hread : ∀ x ∈ xs, x.ReadsBack)
    (hfuel : (commas (xs.map compact)).length ≤ fuel) :
    enclosed? (value? fuel) ']' (commas (xs.map compact) ++ ']' :: rest) =
      some (xs.map listed, rest) := by
  refine enclosed?_commas (.inl rfl) (fun x hx more hmore => ?_) (fun x hx more => ?_) rest
  · have hlength := Json.length_le_commas_of_mem (List.mem_map_of_mem (f := compact) hx)
    rw [(hxs x hx).trimmed_compact, hread x hx fuel more (hlength.trans hfuel) hmore]
  · obtain ⟨c, cs, hcs, _, hclose⟩ := (hxs x hx).head_compact
    rw [(hxs x hx).trimmed_compact, hcs]
    simpa using hclose

/-- The entries of a dictionary are read when each of their values is. -/
theorem enclosed?_entries {es : List (String × Value)} (hes : ∀ e ∈ es, e.2.Simple)
    (hread : ∀ e ∈ es, e.2.ReadsBack)
    (hfuel : (commas (es.map compactEntry)).length ≤ fuel) :
    enclosed? (pair? (value? fuel)) '\x7d'
        (commas (es.map compactEntry) ++ '\x7d' :: rest) =
      some (es.map fun e => (.str e.1, e.2.listed), rest) := by
  have hmark : ∀ (e : String × Value) (more : List Char),
      trimmed (compactEntry e ++ more) =
        '"' :: (e.1.toList.flatMap Json.escaped ++ '"' :: ':' :: (e.2.compact ++ more)) := by
    intro e more
    simp [compactEntry, string, trimmed, Json.isBlank]
  refine enclosed?_commas (.inr rfl) (fun e he more hmore => ?_) (fun e he more => ?_) rest
  · have hlength := Json.length_le_commas_of_mem (List.mem_map_of_mem (f := compactEntry) he)
    rw [compactEntry, List.length_append, List.length_cons] at hlength
    have hvalue := hread e he fuel more (by omega) hmore
    rw [hmark]
    exact Json.Reader.pair?_written e.1 (((hes e he).trimmed_compact more).symm ▸ hvalue)
  · rw [hmark]
    simp

end Containers

/-- A text that is not empty needs fuel. -/
theorem ReadsBack.of_succ {v : Value} {c : Char} {cs : List Char} (hcs : v.compact = c :: cs)
    (h : ∀ (fuel : ℕ) (rest : List Char), cs.length ≤ fuel → Delimited rest →
      value? (fuel + 1) (c :: (cs ++ rest)) = some (v.listed, rest)) : v.ReadsBack := by
  intro fuel rest hfuel hrest
  rw [hcs] at hfuel ⊢
  obtain ⟨fuel, rfl⟩ := Nat.exists_eq_succ_of_ne_zero (Nat.ne_zero_of_lt hfuel)
  exact h fuel rest (Nat.le_of_succ_le_succ hfuel) hrest

/-- **The text of a simple value is read as the value**, with lists in the place of tuples. -/
theorem Simple.readsBack {v : Value} (hv : v.Simple) : v.ReadsBack := by
  induction hv with
  | none => exact .of_succ rfl fun _ _ _ _ => rfl
  | bool b => cases b <;> exact .of_succ rfl fun _ _ _ _ => rfl
  | @int n hn =>
    obtain ⟨c, cs, hcs, hc⟩ := Json.Reader.head_integer n
    refine .of_succ hcs fun fuel rest _ hrest => ?_
    have hread := Json.Reader.number?_integer hn hrest
    rw [hcs, List.cons_append] at hread
    have hc : c ≠ '"' ∧ c ≠ '[' ∧ c ≠ '\x7b' := by
      refine ⟨?_, ?_, ?_⟩ <;>
      · rintro rfl
        cases hc
    rw [value?, if_neg hc.1, if_neg hc.2.1, if_neg hc.2.2, hread]
    rfl
  | str s =>
    have hcompact : compact (.str s) = '"' :: (s.toList.flatMap Json.escaped ++ ['"']) := rfl
    refine .of_succ hcompact fun fuel rest _ _ => ?_
    rw [value?, if_pos rfl, List.append_assoc, List.singleton_append, Json.Reader.string?_escaped]
    rfl
  | @list xs hxs ih | @tuple xs hxs ih =>
    have hcompact : compact (.list xs) = '[' :: (commas (xs.map compact) ++ [']']) := by
      rw [compact, compactItems_eq]
      rfl
    refine .of_succ hcompact fun fuel rest hfuel _ => ?_
    rw [List.length_append] at hfuel
    rw [value?, if_neg (by decide), if_pos rfl, List.append_assoc, List.singleton_append,
      enclosed?_items rest hxs ih (by omega), listed, listedItems_eq]
    rfl
  | @dict es hkeys hes ih =>
    have hcompact : compact (.dict (es.map fun e => (.str e.1, e.2))) =
        '\x7b' :: (commas (es.map compactEntry) ++ ['\x7d']) := by
      rw [compact, compactEntries_eq]
      rfl
    refine .of_succ hcompact fun fuel rest hfuel _ => ?_
    rw [List.length_append] at hfuel
    have hkeys : ((es.map fun e => (e.1, e.2.listed)).map Prod.fst).Nodup := by
      rw [List.map_map]
      exact hkeys
    have hentries := entriesOf_eq hkeys
    rw [List.map_map] at hentries
    rw [value?, if_neg (by decide), if_neg (by decide), if_pos rfl, List.append_assoc,
      List.singleton_append, enclosed?_entries rest hes ih (by omega), listed, listedEntries_eq]
    exact congrArg (fun es => some (Value.dict es, rest)) hentries

/-- Lists and tuples of the same are written alike. -/
theorem Simple.compact_listed {v : Value} (hv : v.Simple) : v.listed.compact = v.compact := by
  induction hv with
  | none | bool _ | int _ | str _ => rfl
  | list _ ih | tuple _ ih =>
    simp only [listed, compact, listedItems_eq, compactItems_eq, List.map_map]
    have hsame : List.map (compact ∘ listed) _ = List.map compact _ := List.map_congr_left ih
    rw [hsame]
  | @dict es _ _ ih =>
    have hentries := compactEntries_eq (es.map fun e => (e.1, e.2.listed))
    have hsame : (es.map fun e => (e.1, e.2.listed)).map compactEntry = es.map compactEntry := by
      rw [List.map_map]
      exact List.map_congr_left fun e he => congrArg (fun cs => string e.1 ++ ':' :: cs) (ih e he)
    rw [hsame, List.map_map] at hentries
    rw [listed, listedEntries_eq, compact, compact, compactEntries_eq]
    exact congrArg (fun texts => '\x7b' :: commas texts ++ ['\x7d']) hentries

/-- The whole text of a simple value is read as the value, with lists in the place of tuples. -/
theorem Simple.read?_compact {v : Value} (hv : v.Simple) : Json.read? v.compact = some v.listed := by
  have hread := hv.readsBack v.compact.length [] (Nat.le_refl _) Json.Reader.delimited_nil
  have htrimmed := hv.trimmed_compact []
  rw [List.append_nil] at hread htrimmed
  rw [Json.read?, htrimmed, hread]
  rfl

/-- Simple values have the same text exactly when they are alike. -/
theorem Simple.compact_eq_iff {v w : Value} (hv : v.Simple) (hw : w.Simple) :
    w.compact = v.compact ↔ w.listed = v.listed := by
  constructor
  · intro h
    have hread := hw.read?_compact
    rw [h, hv.read?_compact] at hread
    exact (Option.some.inj hread).symm
  · intro h
    rw [← hw.compact_listed, h, hv.compact_listed]

end Value

/-! ## The law -/

/-- A schema has the same message for two values exactly when they have the same serialized form. -/
theorem Schema.refusal_eq_iff (s : Schema) {v w : Value} {text text' : String} (hv : v.serialize = .ok text)
    (hw : w.serialize = .ok text') : s.refusal w = s.refusal v ↔ text' = text := by
  rw [refusal, refusal, hv, hw]
  show Except.ok _ = Except.ok _ ↔ _
  simp [toString]

/-- **Echoes of refused options.** The serialized form of a value made of null, truth values, integers, strings,
lists, tuples and dictionaries with string keys is a JSON text. A reader reads it as the value, with lists in the
place of tuples. It has no blank outside its strings and no control character, and the characters beyond ASCII in
it are those of the strings inside the value. So the message about a refused value of this kind tells it from all
others that are not alike in this sense. -/
theorem echo_reads_back {v : Value} (hv : v.Simple) :
    ∃ cs, v.serialize = .ok (String.ofList cs) ∧ Json.read? cs = some v.listed ∧
      Json.Clear cs ∧ (∀ c ∈ cs, 0x20 ≤ c.toNat) ∧
      cs.filter Json.isForeign = v.characters.filter Json.isForeign ∧
      ∀ s : Schema, (∃ message, s.refusal v = .ok message) ∧
        ∀ w : Value, w.Simple → (s.refusal w = s.refusal v ↔ w.listed = v.listed) := by
  refine ⟨v.compact, hv.serialize_eq, hv.read?_compact, hv.clear, hv.no_control, hv.filter_compact, fun s => ?_⟩
  refine ⟨⟨_, by rw [Schema.refusal, hv.serialize_eq]; rfl⟩, fun w hw => ?_⟩
  rw [s.refusal_eq_iff hv.serialize_eq hw.serialize_eq, String.ofList_inj]
  exact hv.compact_eq_iff hw

/-- A dictionary with a tuple in it: its text has no blank, and is read as the dictionary with a list in it. -/
theorem echo_reads_back_tuple :
    Value.Simple (.dict [(.str "é\n", .tuple [.int (-1), .none, .str "\x07 b"])]) ∧
      ∃ cs, cs = ['\x7b', '"', 'é', '\\', 'n', '"', ':', '[', '-', '1', ',', 'n', 'u', 'l', 'l', ',',
          '"', '\\', 'u', '0', '0', '0', '7', ' ', 'b', '"', ']', '\x7d'] ∧
        Value.serialize (.dict [(.str "é\n", .tuple [.int (-1), .none, .str "\x07 b"])]) = .ok (String.ofList cs) ∧
        Json.read? cs = some (.dict [(.str "é\n", .list [.int (-1), .none, .str "\x07 b"])]) := by
  have hitems : ∀ x ∈ [Value.int (-1), Value.none, Value.str "\x07 b"], x.Simple := by
    simp only [List.forall_mem_cons]
    exact ⟨.int (by decide +kernel), .none, .str _, nofun⟩
  have hsimple : Value.Simple (.dict [(.str "é\n", .tuple [.int (-1), .none, .str "\x07 b"])]) :=
    @Value.Simple.dict [("é\n", .tuple [.int (-1), .none, .str "\x07 b"])] (List.nodup_singleton _)
      (List.forall_mem_singleton.mpr (.tuple hitems))
  obtain ⟨cs, hserialize, hread, _⟩ := echo_reads_back hsimple
  refine ⟨hsimple, cs, ?_, hserialize, hread⟩
  rw [hsimple.serialize_eq] at hserialize
  rw [← String.ofList_inj.mp (Except.ok.inj hserialize)]
  decide +kernel

end WordLint
