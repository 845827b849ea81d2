import WordLint.Proofs.Text.OneLine
import WordLint.Value.Json

/-!
# Values on one line

The serialized form of a value has no line break, whatever is inside the value: texts are quoted, with escapes in
the place of line breaks, and numbers and dates have none. A text that is a value of its own always has a JSON
form; so the form for a reader, which would leave it as it is, is not what it is serialized to.

**The law** (`serialize_oneLine`) is put together from the two ways to write a value: its JSON form
(`write?_oneLine`) and its display (`displayIn_oneLine`), both by induction on the value.
-/

namespace WordLint

/-! ## Numbers and dates -/

theorem oneLine_toDigits {b : ℕ} (hb : 1 < b) (n : ℕ) : OneLine (Nat.toDigits b n) := by
  induction n using Nat.strong_induction_on with
  | _ n ih =>
    rw [Nat.toDigits_eq_if hb]
    split
    · simp
    · have hpos : 0 < n := by omega
      simpa using ih _ (Nat.div_lt_self hpos hb)

@[simp] theorem oneLine_decimal (n : ℕ) : OneLine (Nat.toDigits 10 n) :=
  oneLine_toDigits (by decide) n

@[simp] theorem oneLine_hex (width n : ℕ) : OneLine (Text.hex width n) := by
  simp [Text.hex, oneLine_toDigits]

@[simp] theorem oneLine_integer (n : ℤ) : OneLine n.repr.toList := by
  rw [Int.repr_eq_if]
  split <;> simp

@[simp] theorem oneLine_padded (width n : ℕ) : OneLine (padded width n) := by
  simp [padded]

@[simp] theorem oneLine_sign (negative : Bool) : OneLine (Double.sign negative) := by
  cases negative <;> simp [Double.sign]

/-- Digits without the zeros behind them. -/
theorem oneLine_significant (d : Double.Digits) : OneLine (Double.significant d).1 := by
  refine (oneLine_decimal d.digits).of_subset fun c hc => ?_
  exact List.mem_reverse.mp ((List.dropWhile_sublist _).subset (List.mem_reverse.mp hc))

theorem oneLine_positional {digits : List Char} (h : OneLine digits) (top : ℤ) :
    OneLine (Double.positional digits top) := by
  unfold Double.positional
  split
  · simp [h]
  · have hwhole := h.of_subset (List.take_subset (top.toNat + 1) digits)
    have hfraction := h.of_subset (List.drop_subset (top.toNat + 1) digits)
    dsimp only
    split <;> simp [hwhole, hfraction]

theorem oneLine_scientific {digits : List Char} (h : OneLine digits) (top : ℤ) :
    OneLine (Double.scientific digits top) := by
  have hfirst := h.of_subset (List.take_subset 1 digits)
  have hrest := h.of_subset (List.tail_subset digits)
  unfold Double.scientific
  dsimp only
  split <;> split <;> simp [hfirst, hrest]

@[simp] theorem oneLine_double (x : Double) : OneLine x.text := by
  cases x with
  | nan => simp [Double.text]
  | infinite negative => simp [Double.text]
  | finite negative m e =>
    have hdigits := oneLine_significant (Double.shortest m e)
    simp only [Double.text]
    split
    · simp
    · split
      · simp [oneLine_positional hdigits]
      · simp [oneLine_scientific hdigits]

@[simp] theorem oneLine_date (d : Date) : OneLine d.text := by
  simp [Date.text]

@[simp] theorem oneLine_offset (offset : ℤ) : OneLine (offsetText offset) := by
  unfold offsetText
  dsimp only
  split <;> split <;> simp

@[simp] theorem oneLine_time (t : Time) : OneLine t.text := by
  unfold Time.text
  dsimp only
  cases t.offset <;> split <;> simp

/-! ## Quoted texts -/

theorem oneLine_quotedChar {quote : Char} (hquote : quote ≠ '\n' ∧ quote ≠ '\r') (c : Char) :
    OneLine (Text.quotedChar quote c) := by
  unfold Text.quotedChar
  split
  · rename_i hc
    have hbreak : c ≠ '\n' ∧ c ≠ '\r' := by
      rcases Bool.or_eq_true_iff.mp hc with hc | hc
      · rw [beq_iff_eq.mp hc]
        exact hquote
      · rw [beq_iff_eq.mp hc]
        decide
    simp [hbreak]
  repeat' split
  all_goals simp_all

theorem oneLine_quoteFor (s : List Char) : Text.quoteFor s ≠ '\n' ∧ Text.quoteFor s ≠ '\r' := by
  unfold Text.quoteFor
  split <;> decide

@[simp] theorem oneLine_quoted (s : String) : OneLine (Text.quoted s).toList := by
  have hquote := oneLine_quoteFor s.toList
  simp [Text.quoted, hquote, OneLine.flatMap fun c _ => oneLine_quotedChar hquote c]

@[simp] theorem oneLine_quotedBytes (bytes : List ℕ) : OneLine (Text.quotedBytes bytes).toList := by
  have hquote := oneLine_quoteFor (bytes.map Char.ofNat)
  have hbyte (b : ℕ) : OneLine (Text.quotedByte (Text.quoteFor (bytes.map Char.ofNat)) b) := by
    unfold Text.quotedByte
    split
    · exact oneLine_quotedChar hquote _
    · simp
  simp [Text.quotedBytes, hquote, OneLine.flatMap fun b _ => hbyte b]

/-! ## The JSON form -/

theorem oneLine_escaped (c : Char) : OneLine (Json.escaped c) := by
  unfold Json.escaped
  split
  · rename_i hc
    have hbreak : c ≠ '\n' ∧ c ≠ '\r' := by
      rcases Bool.or_eq_true_iff.mp hc with hc | hc
      · rw [of_decide_eq_true hc]
        decide
      · rw [of_decide_eq_true hc]
        decide
    simp [hbreak]
  repeat' split
  all_goals simp_all

@[simp] theorem oneLine_jsonString (s : String) : OneLine (Json.string s) := by
  simp [Json.string, OneLine.flatMap fun c _ => oneLine_escaped c]

/-- A float in JSON: three of them have names of their own. -/
theorem oneLine_jsonFloat (x : Double) : OneLine (Json.float x) := by
  unfold Json.float
  split <;> simp

theorem oneLine_integer? {n : ℤ} {cs : List Char} (h : Json.integer? n = some cs) : OneLine cs := by
  unfold Json.integer? at h
  split at h
  · cases h
  · cases h
    exact oneLine_integer n

theorem oneLine_truth (b : Bool) : OneLine (Json.truth b) := by
  cases b <;> simp [Json.truth]

/-- A value that is written as a string of its text. -/
theorem oneLine_shown? {v : Value} {cs : List Char} (h : Json.shown? v = some cs) : OneLine cs := by
  unfold Json.shown? at h
  split at h
  · cases h
    exact oneLine_jsonString _
  · cases h

/-- A key becomes a string, whatever text it stands for. -/
theorem oneLine_key (cs : List Char) : OneLine ('"' :: cs.flatMap Json.escaped ++ ['"']) := by
  simp [OneLine.flatMap fun c _ => oneLine_escaped c]

theorem oneLine_commas {parts : List (List Char)} (h : ∀ p ∈ parts, OneLine p) : OneLine (Json.commas parts) :=
  .intercalate (by simp) h

namespace Json

-- the bound on digits is a number that must not be written out when the cases below are compared
attribute [local irreducible] Text.oversized

mutual

/-- The JSON form of a value is on one line. -/
theorem write?_oneLine (around : List Container) (route : Route) :
    ∀ (v : Value) (cs : List Char), write? around route v = some cs → OneLine cs
  | .none, cs, h => by
    rw [write?] at h
    cases h
    simp [null]
  | .bool b, cs, h => by
    rw [write?] at h
    cases h
    exact oneLine_truth b
  | .int n, cs, h => by
    rw [write?] at h
    exact oneLine_integer? h
  | .float x, cs, h => by
    rw [write?] at h
    cases h
    exact oneLine_jsonFloat x
  | .str s, cs, h => by
    rw [write?] at h
    cases h
    exact oneLine_jsonString s
  | .list xs, cs, h => by
    rw [write?] at h
    obtain ⟨items, hitems, hcs⟩ := Option.bind_eq_some_iff.mp h
    cases hcs
    simp [oneLine_commas (writeItems?_oneLine _ route 0 xs items hitems)]
  | .tuple xs, cs, h => by
    rw [write?] at h
    obtain ⟨items, hitems, hcs⟩ := Option.bind_eq_some_iff.mp h
    cases hcs
    simp [oneLine_commas (writeItems?_oneLine around route 0 xs items hitems)]
  | .dict es, cs, h => by
    rw [write?] at h
    obtain ⟨entries, hentries, hcs⟩ := Option.bind_eq_some_iff.mp h
    cases hcs
    simp [oneLine_commas (writeEntries?_oneLine _ route 0 es entries hentries)]
  | .up n, cs, h => by
    rw [write?] at h
    cases h
  | .view v, cs, h | .bytes bs, cs, h | .set xs, cs, h | .options o, cs, h | .date d, cs, h
  | .moment d t, cs, h | .time t, cs, h => by
    rw [write?] at h <;> first | exact oneLine_shown? h | nofun

theorem writeItems?_oneLine (around : List Container) (route : Route) (i : ℕ) :
    ∀ (xs : List Value) (items : List (List Char)), writeItems? around route i xs = some items →
      ∀ p ∈ items, OneLine p
  | [], items, h => by
    rw [writeItems?] at h
    cases h
    exact fun p hp => absurd hp List.not_mem_nil
  | x :: xs, items, h => by
    rw [writeItems?] at h
    obtain ⟨first, hfirst, h⟩ := Option.bind_eq_some_iff.mp h
    obtain ⟨rest, hrest, h⟩ := Option.bind_eq_some_iff.mp h
    cases h
    exact List.forall_mem_cons.mpr ⟨write?_oneLine around (i :: route) x first hfirst,
      writeItems?_oneLine around route (i + 1) xs rest hrest⟩

theorem writeEntries?_oneLine (around : List Container) (route : Route) (i : ℕ) :
    ∀ (es : List (Value × Value)) (entries : List (List Char)), writeEntries? around route i es = some entries →
      ∀ p ∈ entries, OneLine p
  | [], entries, h => by
    rw [writeEntries?] at h
    cases h
    exact fun p hp => absurd hp List.not_mem_nil
  | (k, v) :: es, entries, h => by
    rw [writeEntries?] at h
    obtain ⟨key, _, h⟩ := Option.bind_eq_some_iff.mp h
    obtain ⟨value, hvalue, h⟩ := Option.bind_eq_some_iff.mp h
    obtain ⟨rest, hrest, h⟩ := Option.bind_eq_some_iff.mp h
    cases h
    have hfirst : OneLine ('"' :: key.flatMap escaped ++ ['"'] ++ ':' :: value) :=
      OneLine.append_iff.mpr ⟨oneLine_key key, by simp [write?_oneLine around (i :: route) v value hvalue]⟩
    exact List.forall_mem_cons.mpr ⟨hfirst, writeEntries?_oneLine around route (i + 1) es rest hrest⟩

end

end Json

/-! ## The display -/

theorem oneLine_commaSeparated {texts : List String} (h : ∀ t ∈ texts, OneLine t.toList) :
    OneLine (commaSeparated texts).toList :=
  .intercalate_texts (by simp) h

theorem oneLine_tupleText {texts : List String} (h : ∀ t ∈ texts, OneLine t.toList) :
    OneLine (tupleText texts).toList := by
  unfold tupleText
  split
  · simpa using h
  · simp [oneLine_commaSeparated h]

theorem oneLine_integerText {n : ℤ} {text : String} (h : integerText n = .ok text) : OneLine text.toList := by
  unfold integerText at h
  split at h
  · cases h
  · cases h
    exact oneLine_integer n

theorem oneLine_groupText (patterns : Option (List String)) : OneLine (groupText patterns).toList := by
  unfold groupText
  split
  · simp
  · exact oneLine_tupleText (List.forall_mem_map.mpr fun p _ => oneLine_quoted p)

theorem oneLine_options (o : Options) : OneLine o.display.toList := by
  have hfield : ∀ g ∈ Group.list, OneLine (g.field ++ "=" ++ groupText (o.get g)).toList := by
    intro g _
    have hname : OneLine g.field.toList := by cases g <;> simp [Group.field]
    simp [hname, oneLine_groupText]
  have hfields := oneLine_commaSeparated (List.forall_mem_map.mpr hfield)
  unfold Options.display
  simp only [String.toList_append, OneLine.append_iff]
  exact ⟨⟨by simp, hfields⟩, by simp⟩

@[simp] theorem oneLine_commaNumbers (ns : List ℕ) : OneLine (commaNumbers ns).toList :=
  .intercalate_texts (by simp) (List.forall_mem_map.mpr fun n _ => by simp)

theorem oneLine_zonePart (t : Time) : OneLine t.zonePart.toList := by
  unfold Time.zonePart zoneForm
  split
  · dsimp only
    split
    · simp
    · split <;> simp
  · simp

theorem oneLine_moment (d : Date) (t : Time) : OneLine (momentForm d t).toList := by
  unfold momentForm
  simp only [toString_text, String.toList_append, OneLine.append_iff]
  exact ⟨⟨⟨by simp, oneLine_commaNumbers _⟩, oneLine_zonePart t⟩, by simp⟩

theorem oneLine_dateForm (d : Date) : OneLine d.constructorForm.toList := by
  unfold Date.constructorForm
  simp only [toString_text, String.toList_append, OneLine.append_iff]
  exact ⟨⟨by simp, oneLine_commaNumbers _⟩, by simp⟩

theorem oneLine_timeForm (t : Time) : OneLine t.constructorForm.toList := by
  unfold Time.constructorForm
  simp only [toString_text, String.toList_append, OneLine.append_iff]
  exact ⟨⟨⟨by simp, oneLine_commaNumbers _⟩, oneLine_zonePart t⟩, by simp⟩

/-- What stands behind a computation that succeeds comes from its value. -/
theorem exists_of_bind_eq_ok {ε α β : Type} {x : Except ε α} {f : α → Except ε β} {b : β}
    (h : x >>= f = .ok b) : ∃ a, x = .ok a ∧ f a = .ok b := by
  cases x with
  | error e => cases h
  | ok a => exact ⟨a, rfl, h⟩

namespace Value

-- as above
attribute [local irreducible] Text.oversized

mutual

/-- The display of a value is on one line. -/
theorem displayIn_oneLine (around : List Brackets) :
    ∀ (v : Value) (text : String), displayIn around v = .ok text → OneLine text.toList
  | .none, text, h => by
    rw [displayIn] at h
    cases h
    simp
  | .bool b, text, h => by
    rw [displayIn] at h
    cases h
    cases b <;> simp
  | .int n, text, h => by
    rw [displayIn] at h
    exact oneLine_integerText h
  | .float x, text, h => by
    rw [displayIn] at h
    cases h
    simp
  | .str s, text, h => by
    rw [displayIn] at h
    cases h
    exact oneLine_quoted s
  | .bytes bs, text, h => by
    rw [displayIn] at h
    cases h
    exact oneLine_quotedBytes bs
  | .list xs, text, h => by
    rw [displayIn] at h
    obtain ⟨texts, htexts, h⟩ := exists_of_bind_eq_ok h
    cases h
    simp [oneLine_commaSeparated (displayItems_oneLine _ xs texts htexts)]
  | .tuple xs, text, h => by
    rw [displayIn] at h
    obtain ⟨texts, htexts, h⟩ := exists_of_bind_eq_ok h
    cases h
    exact oneLine_tupleText (displayItems_oneLine around xs texts htexts)
  | .set xs, text, h => by
    rw [displayIn] at h
    split at h
    · cases h
      simp
    · obtain ⟨texts, htexts, h⟩ := exists_of_bind_eq_ok h
      cases h
      simp [oneLine_commaSeparated (displayItems_oneLine around xs texts htexts)]
  | .dict es, text, h => by
    rw [displayIn] at h
    obtain ⟨texts, htexts, h⟩ := exists_of_bind_eq_ok h
    cases h
    simp [oneLine_commaSeparated (displayEntries_oneLine _ es texts htexts)]
  | .view v, text, h => by
    rw [displayIn] at h
    obtain ⟨shown, hshown, h⟩ := exists_of_bind_eq_ok h
    cases h
    simp [displayIn_oneLine around v shown hshown]
  | .options o, text, h => by
    rw [displayIn] at h
    cases h
    exact oneLine_options o
  | .date d, text, h => by
    rw [displayIn] at h
    cases h
    exact oneLine_dateForm d
  | .moment d t, text, h => by
    rw [displayIn] at h
    cases h
    exact oneLine_moment d t
  | .time t, text, h => by
    rw [displayIn] at h
    cases h
    exact oneLine_timeForm t
  | .up n, text, h => by
    rw [displayIn] at h
    cases h
    cases around[n]? with
    | none => simp
    | some brackets => cases brackets <;> simp [Brackets.dots]

theorem displayItems_oneLine (around : List Brackets) :
    ∀ (xs : List Value) (texts : List String), displayItems around xs = .ok texts → ∀ t ∈ texts, OneLine t.toList
  | [], texts, h => by
    rw [displayItems] at h
    cases h
    exact fun t ht => absurd ht List.not_mem_nil
  | x :: xs, texts, h => by
    rw [displayItems] at h
    obtain ⟨first, hfirst, h⟩ := exists_of_bind_eq_ok h
    obtain ⟨rest, hrest, h⟩ := exists_of_bind_eq_ok h
    cases h
    exact List.forall_mem_cons.mpr
      ⟨displayIn_oneLine around x first hfirst, displayItems_oneLine around xs rest hrest⟩

theorem displayEntries_oneLine (around : List Brackets) :
    ∀ (es : List (Value × Value)) (texts : List String), displayEntries around es = .ok texts →
      ∀ t ∈ texts, OneLine t.toList
  | [], texts, h => by
    rw [displayEntries] at h
    cases h
    exact fun t ht => absurd ht List.not_mem_nil
  | (k, v) :: es, texts, h => by
    rw [displayEntries] at h
    obtain ⟨key, hkey, h⟩ := exists_of_bind_eq_ok h
    obtain ⟨value, hvalue, h⟩ := exists_of_bind_eq_ok h
    obtain ⟨rest, hrest, h⟩ := exists_of_bind_eq_ok h
    cases h
    have hfirst : OneLine (key ++ ": " ++ value).toList := by
      simp [displayIn_oneLine around k key hkey, displayIn_oneLine around v value hvalue]
    exact List.forall_mem_cons.mpr ⟨hfirst, displayEntries_oneLine around es rest hrest⟩

end

/-- A value that has no JSON form is no text, so its form for a reader is on one line. -/
theorem text_oneLine {v : Value} (hjson : Json.write? [] [] v = Option.none) {text : String}
    (h : v.text = .ok text) : OneLine text.toList := by
  unfold Value.text at h
  split at h
  · rw [Json.write?] at hjson
    cases hjson
  · cases h
    simp
  · cases h
    simp [momentText]
  · cases h
    simp
  · exact displayIn_oneLine [] _ text h
  · exact displayIn_oneLine [] v text h

/-- **The serialized form of a value is on one line.** -/
theorem serialize_oneLine {v : Value} {text : String} (h : v.serialize = .ok text) : OneLine text.toList := by
  unfold serialize at h
  split at h
  · rename_i cs hjson
    cases h
    rw [String.toList_ofList]
    exact Json.write?_oneLine [] [] v cs hjson
  · rename_i hjson
    exact text_oneLine hjson h

end Value

end WordLint
