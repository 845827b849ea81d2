import Mathlib
import WordLint.Proofs.Text.Cuts
import WordLint.Proofs.Toml.Escapes
import WordLint.Toml.Document

/-!
# Arrays of texts

An array of texts is written on one line, the texts between quotation marks. It is cut at all its commas
before any text is read, and pieces are joined again until they end in a mark that is not escaped. An open
piece of a text ends in such a mark only when it is nothing but the opening one, blanks aside.

**The law** (`readValue_itemsText`): an array of texts is read back when every text of it `ReadsBack`: no
comma stands at its front, blanks aside; it is no quotation mark and does not begin with two of them; and
it keeps its escapes by code point.
-/

namespace WordLint.Toml

/-! ## Texts that are read back -/

/-- No comma stands at the front, blanks that are written as themselves aside. -/
def CommaKept (p : List Char) : Prop :=
  (p.dropWhile fun c => Text.isBlank c && basicChar c == [c]).head? ≠ some ','

/-- The text is not a quotation mark and does not begin with two of them. -/
def MarksKept (p : List Char) : Prop :=
  p ≠ ['"'] ∧ ¬ ['"', '"'] <+: p

/-- The text is read back from an array. -/
structure ReadsBack (p : List Char) : Prop where
  codes : CodesKept p
  comma : CommaKept p
  marks : MarksKept p

instance (p : List Char) : Decidable (CommaKept p) :=
  inferInstanceAs (Decidable (_ ≠ _))

instance (p : List Char) : Decidable (MarksKept p) :=
  inferInstanceAs (Decidable (_ ∧ _))

instance (p : List Char) : Decidable (ReadsBack p) :=
  decidable_of_iff (CodesKept p ∧ CommaKept p ∧ MarksKept p)
    ⟨fun h => ⟨h.1, h.2.1, h.2.2⟩, fun h => ⟨h.codes, h.comma, h.marks⟩⟩

/-- A text that keeps its marks loses none when it is read. -/
theorem withoutMarks_eq {p : List Char} (hp : MarksKept p) : withoutMarks '"' p = p := by
  obtain ⟨hone, htwo⟩ := hp
  match p with
  | [] => rfl
  | [c] =>
    have hc : c ≠ '"' := fun h => hone (by rw [h])
    rw [withoutMarks, if_neg hc]
  | a :: b :: rest =>
    have hab : ¬ (a = '"' ∧ b = '"') := by
      rintro ⟨rfl, rfl⟩
      exact htwo ⟨rest, rfl⟩
    rw [withoutMarks, if_neg (by simpa using hab)]

/-! ## Strings -/

/-- A text between its marks. -/
def quoted (p : List Char) : List Char :=
  '"' :: (written p ++ ['"'])

theorem quoted_append (p t : List Char) : quoted p ++ t = '"' :: (written p ++ '"' :: t) := by
  simp [quoted]

/-- A written text does not start with a mark. -/
theorem head?_written_ne_mark (p : List Char) : (written p).head? ≠ some '"' := by
  cases p with
  | nil => exact fun h => nomatch h
  | cons c p =>
    rw [written, List.flatMap_cons]
    have hspelling := basicChar_spelling c
    generalize basicChar c = w at hspelling
    cases hspelling with
    | plain _ hmark _ _ => exact fun h => hmark (Option.some.inj h)
    | short _ _ _ _ _ => exact fun h => absurd (Option.some.inj h) (by decide)
    | coded _ _ => exact fun h => absurd (Option.some.inj h) (by decide)

/-- The marks of a text are not taken for tripled ones. -/
theorem take_two_ne {p t : List Char} (ht : t.head? ≠ some '"') :
    (written p ++ '"' :: t).take 2 ≠ ['"', '"'] := by
  have hhead := head?_written_ne_mark p
  cases hw : written p with
  | nil =>
    cases t with
    | nil => simp
    | cons d t =>
      intro h
      refine ht ?_
      simpa using h
  | cons d w =>
    intro h
    refine hhead ?_
    rw [hw]
    have := List.head_eq_of_cons_eq h
    rw [List.head?_cons, this]

/-- A quoted text at the front ends with its closing mark. -/
theorem behindString?_quoted (p : List Char) {t : List Char} (ht : t.head? ≠ some '"') :
    behindString? (quoted p ++ t) = some t := by
  rw [quoted_append]
  unfold behindString?
  dsimp only
  rw [if_neg (by decide), if_neg (take_two_ne ht), lineText?_written]
  rfl

/-- A piece that is a quoted text stands for the text. -/
theorem pieceString?_quoted {p : List Char} (hp : ReadsBack p) : pieceString? (quoted p) = some p := by
  have htwo := take_two_ne (p := p) (t := []) (fun h => nomatch h)
  unfold pieceString? quoted
  dsimp only
  rw [if_neg htwo, lineText?_written]
  dsimp only
  rw [resolved?_written hp.codes, Option.map_some, withoutMarks_eq hp.marks]

/-! ## Brackets -/

/-- The texts of an array, with commas between them. -/
def itemsText : List (List Char) → List Char
  | [] => []
  | [p] => quoted p
  | p :: q :: ps => quoted p ++ ',' :: ' ' :: itemsText (q :: ps)

/-- A quoted text is passed over as a whole. -/
theorem enclosed?_quoted (p : List Char) {t : List Char} (ht : t.head? ≠ some '"') (fuel depth : Nat) :
    enclosed? '[' ']' (fuel + 1) depth (quoted p ++ t) =
      (enclosed? '[' ']' fuel depth t).map fun (text, after) => (quoted p ++ text, after) := by
  have hbehind := behindString?_quoted p ht
  have htake : (quoted p ++ t).take ((quoted p ++ t).length - t.length) = quoted p := by
    rw [List.length_append, Nat.add_sub_cancel, List.take_left]
  rw [quoted_append] at hbehind htake ⊢
  rw [enclosed?.eq_def]
  simp only [show isMark '"' = true from rfl, if_true, hbehind]
  rw [List.length_cons] at htake
  rw [← htake]
  rfl

/-- **The closing bracket is found** behind the texts of an array. -/
theorem enclosed?_itemsText {ps : List (List Char)} {fuel : Nat} (hfuel : (itemsText ps).length < fuel)
    (t : List Char) :
    enclosed? '[' ']' fuel 0 (itemsText ps ++ ']' :: t) = some (itemsText ps, some t) := by
  induction ps generalizing fuel with
  | nil =>
    obtain ⟨fuel, rfl⟩ : ∃ n, fuel = n + 1 := ⟨fuel - 1, by omega⟩
    rfl
  | cons p ps ih =>
    obtain ⟨fuel, rfl⟩ : ∃ n, fuel = n + 1 := ⟨fuel - 1, by omega⟩
    cases ps with
    | nil =>
      obtain ⟨fuel, rfl⟩ : ∃ n, fuel = n + 1 := ⟨fuel - 1, by simp [itemsText, quoted] at hfuel; omega⟩
      rw [itemsText, enclosed?_quoted p (by simp)]
      show some (quoted p ++ [], some t) = _
      rw [List.append_nil]
    | cons q ps =>
      have hlength : (itemsText (p :: q :: ps)).length =
          (quoted p).length + 2 + (itemsText (q :: ps)).length := by
        rw [itemsText]
        simp only [List.length_append, List.length_cons]
        omega
      have hpos : 0 < (quoted p).length := by simp [quoted]
      obtain ⟨fuel, rfl⟩ : ∃ n, fuel = n + 2 := ⟨fuel - 2, by omega⟩
      have hmore : enclosed? '[' ']' fuel 0 (itemsText (q :: ps) ++ ']' :: t) =
          some (itemsText (q :: ps), some t) :=
        ih (by omega)
      rw [itemsText, List.append_assoc, enclosed?_quoted p (by simp)]
      show Option.map _ (Option.map _ (Option.map _
        (enclosed? '[' ']' fuel 0 (itemsText (q :: ps) ++ ']' :: t)))) = _
      rw [hmore]
      rfl

/-! ## Marks that are escaped -/

/-- Whether the character behind a text would be escaped by the text's last backslash. -/
def openEscape (v : List Char) : Bool :=
  v.foldl (fun escaped c => !escaped && c == '\\') false

theorem openEscape_append {v : List Char} (hv : openEscape v = false) (w : List Char) :
    openEscape (v ++ w) = openEscape w := by
  unfold openEscape at hv ⊢
  rw [List.foldl_append, hv]

theorem openEscape_of_notMem {v : List Char} (hv : '\\' ∉ v) : openEscape v = false := by
  induction v with
  | nil => rfl
  | cons c v ih =>
    have hc : openEscape [c] = false := by
      have : c ≠ '\\' := fun h => hv (by rw [h]; exact List.mem_cons_self)
      simpa [openEscape] using this
    rw [← List.singleton_append, openEscape_append hc]
    exact ih fun h => hv (List.mem_cons_of_mem _ h)

/-- It would be when the backslashes at the end are odd in number. -/
theorem trailing_backslashes (v : List Char) :
    ((v.reverse.takeWhile (· == '\\')).length % 2 == 0) = !openEscape v := by
  induction v using List.reverseRecOn with
  | nil => rfl
  | append_singleton v c ih =>
    have hopen : openEscape (v ++ [c]) = (!openEscape v && c == '\\') := by
      rw [openEscape, List.foldl_append]
      rfl
    rw [hopen, List.reverse_append, List.reverse_singleton, List.singleton_append, List.takeWhile_cons]
    by_cases hc : c = '\\'
    · simp only [hc, beq_self_eq_true, if_true, List.length_cons, Bool.and_true, Bool.not_not]
      rw [← Bool.not_not (openEscape v), ← ih]
      rcases Nat.mod_two_eq_zero_or_one (v.reverse.takeWhile (· == '\\')).length with h | h
      · simp [Nat.add_mod, h]
      · simp [Nat.add_mod, h]
    · simp [hc]

/-- A written character leaves no escape open. -/
theorem openEscape_basicChar (c : Char) : openEscape (basicChar c) = false := by
  have hspelling := basicChar_spelling c
  generalize basicChar c = w at hspelling
  cases hspelling with
  | plain hescape _ _ _ => simpa [openEscape] using hescape
  | short e _ _ _ _ => rfl
  | coded _ hcoded =>
    have hplain : ∀ d ∈ Text.hex 4 c.toNat, d ≠ '\\' := by
      intro d hd
      have := List.all_eq_true.mp (codeFacts hcoded).plain d hd
      simp only [Bool.and_eq_true, bne_iff_ne] at this
      exact this.1.1
    show openEscape (['\\', 'u'] ++ Text.hex 4 c.toNat) = false
    rw [openEscape_append rfl]
    exact openEscape_of_notMem fun hmem => hplain _ hmem rfl

theorem openEscape_written (p : List Char) : openEscape (written p) = false := by
  induction p with
  | nil => rfl
  | cons c p ih =>
    rw [written, List.flatMap_cons, openEscape_append (openEscape_basicChar c)]
    exact ih

/-- A mark inside a written character is escaped. -/
theorem openEscape_of_mark_char {c : Char} {v w : List Char} (h : basicChar c = v ++ '"' :: w) :
    openEscape v = true := by
  have hspelling := basicChar_spelling c
  generalize basicChar c = spelling at hspelling h
  cases hspelling with
  | plain _ hmark _ _ =>
    cases v with
    | nil => exact absurd (List.head_eq_of_cons_eq h) hmark
    | cons a v => simp at h
  | short e _ _ _ _ =>
    rcases v with _ | ⟨a, _ | ⟨b, v⟩⟩
    · exact absurd (List.head_eq_of_cons_eq h) (by decide)
    · rw [List.singleton_append] at h
      rw [← List.head_eq_of_cons_eq h]
      rfl
    · simp at h
  | coded _ hcoded =>
    have hmem : '"' ∈ '\\' :: 'u' :: Text.hex 4 c.toNat := by
      rw [h]
      exact List.mem_append_right _ List.mem_cons_self
    have hmem : '"' ∈ Text.hex 4 c.toNat := by simpa using hmem
    have := List.all_eq_true.mp (codeFacts hcoded).plain _ hmem
    simp at this

/-- **A mark inside a written text is escaped.** -/
theorem openEscape_of_mark {p v z : List Char} (h : written p = v ++ '"' :: z) :
    openEscape v = true := by
  induction p generalizing v with
  | nil => exact absurd h (by simp [written])
  | cons c p ih =>
    rw [written, List.flatMap_cons] at h
    rcases List.append_eq_append_iff.mp h with ⟨v', rfl, hrest⟩ | ⟨w, hchar, hrest⟩
    · rw [openEscape_append (openEscape_basicChar c)]
      exact ih hrest
    · cases w with
      | nil =>
        -- the mark would be the first character of what follows
        exact absurd (ih (v := []) hrest.symm) (by decide)
      | cons d w =>
        have hd : '"' = d := List.head_eq_of_cons_eq hrest
        exact openEscape_of_mark_char (hd ▸ hchar)

/-! ## Pieces -/

/-- A text without the blanks at its end. -/
def trimEnd (x : List Char) : List Char :=
  (x.reverse.dropWhile Text.isBlank).reverse

/-- Behind a mark only the end of a text is trimmed. -/
theorem trim_mark (x : List Char) : Text.trim ('"' :: x) = '"' :: trimEnd x := by
  have hmark : Text.isBlank '"' = false := rfl
  unfold Text.trim trimEnd
  rw [List.dropWhile_cons_of_neg (by simp [hmark]), List.reverse_cons, List.dropWhile_append]
  split
  · rename_i hempty
    rw [List.isEmpty_iff.mp hempty]
    rfl
  · rw [List.reverse_append]
    rfl

/-- A blank in front of a text is trimmed. -/
theorem trim_space (x : List Char) : Text.trim (' ' :: x) = Text.trim x := by
  unfold Text.trim
  rw [List.dropWhile_cons_of_pos rfl]

theorem trimEnd_of_last {x : List Char} {c : Char} (hc : Text.isBlank c = false) :
    trimEnd (x ++ [c]) = x ++ [c] := by
  unfold trimEnd
  rw [List.reverse_append, List.reverse_singleton, List.singleton_append,
    List.dropWhile_cons_of_neg (by simp [hc]), List.reverse_cons, List.reverse_reverse]

theorem trim_quoted (p : List Char) : Text.trim (quoted p) = quoted p := by
  rw [quoted, trim_mark, trimEnd_of_last rfl]

/-- A text ends where its blanks at the end begin. -/
theorem exists_blanks (x : List Char) : ∃ blanks, x = trimEnd x ++ blanks ∧ ∀ c ∈ blanks, Text.isBlank c := by
  refine ⟨(x.reverse.takeWhile Text.isBlank).reverse, ?_, ?_⟩
  · rw [trimEnd, ← List.reverse_append, List.takeWhile_append_dropWhile, List.reverse_reverse]
  · intro c hc
    exact List.mem_takeWhile_imp (List.mem_reverse.mp hc)

theorem isComplete_mark_mark {v : List Char} :
    isComplete ('"' :: (v ++ ['"'])) = (!openEscape v && !opensBlock ('"' :: (v ++ ['"']))) := by
  unfold isComplete
  dsimp only
  rw [← trailing_backslashes, List.dropLast_concat, ← List.cons_append, List.getLast?_concat]
  simp

/-- The marks of a text are not three. -/
theorem opensBlock_quoted (p : List Char) : opensBlock (quoted p) = false := by
  have hhead := head?_written_ne_mark p
  unfold quoted opensBlock
  cases hw : written p with
  | nil => rfl
  | cons d w =>
    have hd : '"' ≠ d := fun h => hhead (by rw [hw, ← h]; rfl)
    split
    · rename_i heq
      rw [← List.head_eq_of_cons_eq heq, ← List.head_eq_of_cons_eq (List.tail_eq_of_cons_eq heq)]
      simp [hd]
    · rfl

theorem isComplete_quoted (p : List Char) : isComplete (Text.trim (quoted p)) = true := by
  rw [trim_quoted, quoted, isComplete_mark_mark, openEscape_written, ← quoted, opensBlock_quoted]
  rfl

/-- An escape is neither a comma nor a blank. -/
theorem not_blank_of_escape {w x y : List Char} (h : '\\' :: w = x ++ ',' :: y) :
    ¬ ∀ c ∈ x, Text.isBlank c := by
  intro hx
  cases x with
  | nil => exact absurd (List.head_eq_of_cons_eq h) (by decide)
  | cons d x =>
    have hblank := hx d List.mem_cons_self
    rw [← List.head_eq_of_cons_eq h] at hblank
    exact absurd hblank (by decide)

/-- A comma with nothing but blanks before it stands at the front. -/
theorem not_commaKept {p x y : List Char} (h : written p = x ++ ',' :: y)
    (hx : ∀ c ∈ x, Text.isBlank c) : ¬ CommaKept p := by
  unfold CommaKept
  rw [not_not]
  induction p generalizing x with
  | nil => exact absurd h (by simp [written])
  | cons c p ih =>
    rw [written, List.flatMap_cons] at h
    have hspelling := basicChar_spelling c
    generalize hw : basicChar c = w at hspelling h
    cases hspelling with
    | plain _ _ _ _ =>
      cases x with
      | nil =>
        have hc : c = ',' := List.head_eq_of_cons_eq h
        rw [hc]
        rfl
      | cons d x =>
        have hc : c = d := List.head_eq_of_cons_eq h
        have hblank := hx d List.mem_cons_self
        have hrest : written p = x ++ ',' :: y := List.tail_eq_of_cons_eq h
        rw [List.dropWhile_cons_of_pos (by rw [hw, hc, hblank]; simp)]
        exact ih hrest fun c hc => hx c (List.mem_cons_of_mem _ hc)
    | short e _ _ _ _ => exact absurd hx (not_blank_of_escape h)
    | coded _ _ => exact absurd hx (not_blank_of_escape h)

/-- **An open piece is not complete**: what stands before a comma of a text that keeps its commas. -/
theorem isComplete_open {p x y : List Char} (hp : CommaKept p) (h : written p = x ++ ',' :: y) :
    isComplete (Text.trim ('"' :: x)) = false := by
  rw [trim_mark]
  obtain ⟨blanks, hx, hblanks⟩ := exists_blanks x
  rcases List.eq_nil_or_concat' (trimEnd x) with hnil | ⟨v, d, hv⟩
  · rw [hnil, List.nil_append] at hx
    rw [hx] at h
    exact absurd hp (not_commaKept h hblanks)
  · by_cases hd : d = '"'
    · subst hd
      rw [hv, isComplete_mark_mark]
      have hopen : openEscape v = true := by
        refine openEscape_of_mark (p := p) (z := blanks ++ ',' :: y) ?_
        rw [h, hx, hv]
        simp
      rw [hopen]
      rfl
    · rw [hv]
      unfold isComplete
      dsimp only
      rw [← List.cons_append, List.getLast?_concat]
      simp [hd]

/-! ## Cutting and joining -/

/-- The pieces of an item are joined again: none that ends at a comma of the item is complete, and the
whole item is. -/
theorem joinStrings_item {item : List Char} (hwhole : isComplete (Text.trim item) = true)
    (more : List (List Char)) : ∀ (n : Nat) (joined left : List Char), left.length ≤ n →
    joined ++ left = item →
    (∀ x y, left = x ++ ',' :: y → isComplete (Text.trim (joined ++ x)) = false) →
    joinStrings joined (Text.cutAt ',' left ++ more) = (joinStrings [] more).map (item :: ·) := by
  intro n
  induction n with
  | zero =>
    intro joined left hlength hitem _
    have hleft : left = [] := List.length_eq_zero_iff.mp (Nat.le_zero.mp hlength)
    rw [hleft] at hitem ⊢
    show joinStrings joined ([] :: more) = _
    rw [joinStrings, hitem, if_pos (by simp [hwhole])]
  | succ n ih =>
    intro joined left hlength hitem hopen
    by_cases hcomma : ',' ∈ left
    · obtain ⟨x, y, rfl, hx⟩ := List.eq_append_cons_of_mem hcomma
      have hfirst := hopen x y rfl
      have hmore : (Text.cutAt ',' y ++ more).isEmpty = false := by
        rw [List.isEmpty_eq_false_iff]
        exact List.append_ne_nil_of_left_ne_nil (Text.cutAt_ne_nil ',' y) more
      rw [Text.cutAt_append, Text.cutAt_of_notMem hx]
      show joinStrings joined (x :: (Text.cutAt ',' y ++ more)) = _
      rw [joinStrings, if_neg (by simp [hfirst, hmore]), if_neg (by simp [hmore])]
      refine ih (joined ++ x ++ [',']) y ?_ ?_ ?_
      · rw [List.length_append, List.length_cons] at hlength
        omega
      · rw [← hitem]
        simp
      · intro x' y' hy
        have := hopen (x ++ ',' :: x') y' (by rw [hy]; simp)
        simpa using this
    · rw [Text.cutAt_of_notMem hcomma]
      show joinStrings joined (left :: more) = _
      rw [joinStrings, hitem, if_pos (by simp [hwhole])]

/-- A comma of a quoted text stands between its marks. -/
theorem comma_inside {p x y : List Char} (h : quoted p = x ++ ',' :: y) :
    ∃ x' y', x = '"' :: x' ∧ written p = x' ++ ',' :: y' := by
  cases x with
  | nil => exact absurd (List.head_eq_of_cons_eq h) (by decide)
  | cons d x =>
    rw [← List.head_eq_of_cons_eq h]
    have hinside : written p ++ ['"'] = x ++ ',' :: y := List.tail_eq_of_cons_eq h
    rcases List.eq_nil_or_concat' y with rfl | ⟨y, e, rfl⟩
    · have := List.append_inj_right' hinside rfl
      cases this
    · rw [← List.cons_append, ← List.append_assoc] at hinside
      exact ⟨x, y, rfl, List.append_inj_left' hinside rfl⟩

/-- The pieces of a quoted text that keeps its commas are joined again, a blank before it or not. -/
theorem joinStrings_quoted {p : List Char} (hp : CommaKept p) {front : List Char}
    (hfront : front = [] ∨ front = [' ']) (more : List (List Char)) :
    joinStrings [] (Text.cutAt ',' (front ++ quoted p) ++ more) =
      (joinStrings [] more).map ((front ++ quoted p) :: ·) := by
  have htrim : ∀ x, Text.trim (front ++ '"' :: x) = Text.trim ('"' :: x) := by
    rcases hfront with rfl | rfl
    · exact fun _ => rfl
    · exact fun x => trim_space _
  refine joinStrings_item ?_ more _ [] _ (Nat.le_refl _) rfl ?_
  · rw [quoted, htrim, ← quoted]
    exact isComplete_quoted p
  · intro x y hxy
    rw [List.nil_append]
    rcases hfront with rfl | rfl
    · obtain ⟨x, y, rfl, hwritten⟩ := comma_inside hxy
      exact isComplete_open hp hwritten
    · cases x with
      | nil => exact absurd (List.head_eq_of_cons_eq hxy) (by decide)
      | cons d x =>
        obtain ⟨x, y, rfl, hwritten⟩ := comma_inside (List.tail_eq_of_cons_eq hxy)
        rw [← List.head_eq_of_cons_eq hxy, trim_space]
        exact isComplete_open hp hwritten

/-- **The pieces of an array of texts** are the texts between their marks, a blank before every text but
the first. -/
theorem joinStrings_itemsText {ps : List (List Char)} (hps : ∀ p ∈ ps, CommaKept p) (p : List Char)
    (hp : CommaKept p) {front : List Char} (hfront : front = [] ∨ front = [' ']) :
    joinStrings [] (Text.cutAt ',' (front ++ itemsText (p :: ps))) =
      .ok ((front ++ quoted p) :: ps.map (' ' :: quoted ·)) := by
  induction ps generalizing p front with
  | nil =>
    rw [itemsText, ← List.append_nil (Text.cutAt ',' (front ++ quoted p)), joinStrings_quoted hp hfront]
    rfl
  | cons q ps ih =>
    have hmore := ih (fun p hp => hps p (List.mem_cons_of_mem _ hp)) q (hps q List.mem_cons_self)
      (Or.inr rfl)
    rw [itemsText, ← List.append_assoc, Text.cutAt_append, joinStrings_quoted hp hfront]
    show Except.map _ (joinStrings [] (Text.cutAt ',' ([' '] ++ itemsText (q :: ps)))) = _
    rw [hmore]
    rfl

theorem readPieces_itemsText {ps : List (List Char)} (hps : ∀ p ∈ ps, CommaKept p) :
    ∃ pieces, readPieces (itemsText ps) = .ok pieces ∧ pieces.map Text.trim = ps.map quoted := by
  cases ps with
  | nil => exact ⟨[], rfl, rfl⟩
  | cons p ps =>
    have hjoin := joinStrings_itemsText (fun p hp => hps p (List.mem_cons_of_mem _ hp)) p
      (hps p List.mem_cons_self) (Or.inl rfl)
    have hhead : ∃ rest, itemsText (p :: ps) = '"' :: rest := by
      cases ps with
      | nil => exact ⟨_, rfl⟩
      | cons q ps => exact ⟨_, rfl⟩
    obtain ⟨rest, hrest⟩ := hhead
    refine ⟨quoted p :: ps.map (' ' :: quoted ·), ?_, ?_⟩
    · rw [List.nil_append, List.nil_append] at hjoin
      unfold readPieces
      rw [← hjoin, hrest, trim_mark]
      rfl
    · rw [List.map_cons, trim_quoted, List.map_map]
      refine congrArg (quoted p :: ·) (List.map_congr_left fun q _ => ?_)
      rw [Function.comp_apply, trim_space, trim_quoted]

/-- The pieces of an array of texts stand for the texts. -/
theorem readItems_quoted {ps : List (List Char)} (hps : ∀ p ∈ ps, ReadsBack p) {pieces : List (List Char)}
    (hpieces : pieces.map Text.trim = ps.map quoted) {type : Option ItemType} (htype : type.all (· = .string) = true)
    {fuel : Nat} (hfuel : ps.length < fuel) :
    readItems fuel type pieces = .ok (ps.map fun p => .str (String.ofList p)) := by
  induction ps generalizing pieces type fuel with
  | nil =>
    obtain ⟨fuel, rfl⟩ : ∃ n, fuel = n + 1 := ⟨fuel - 1, by omega⟩
    rw [List.map_eq_nil_iff.mp hpieces]
    rfl
  | cons p ps ih =>
    obtain ⟨fuel, rfl⟩ : ∃ n, fuel = n + 1 := ⟨fuel - 1, by omega⟩
    rw [List.length_cons] at hfuel
    cases pieces with
    | nil => exact nomatch hpieces
    | cons piece pieces =>
      have hpiece : Text.trim piece = quoted p := List.head_eq_of_cons_eq hpieces
      have hmore : readItems fuel (some .string) pieces = .ok (ps.map fun p => .str (String.ofList p)) :=
        ih (fun p hp => hps p (List.mem_cons_of_mem _ hp)) (List.tail_eq_of_cons_eq hpieces) rfl
          (Nat.lt_of_succ_lt_succ hfuel)
      have hstring := pieceString?_quoted (hps p List.mem_cons_self)
      rw [readItems, hpiece]
      show (do
        let read ← orMalformed ((pieceString? (quoted p)).map fun s => (Value.str (String.ofList s), ([] : List Char)))
        if read.2.isEmpty && type.all (· = itemType read.1) then
          return read.1 :: (← readItems fuel (some (itemType read.1)) pieces)
        else .error .malformed) = _
      rw [hstring]
      show (if true && type.all (· = .string) then
          (do return Value.str (String.ofList p) :: (← readItems fuel (some .string) pieces))
        else .error .malformed) = _
      rw [htype, hmore]
      rfl

/-- The values that some texts are. -/
def textValues (ps : List (List Char)) : List Value :=
  ps.map fun p => .str (String.ofList p)

/-- An array of texts ends where it is closed. -/
theorem arrayText?_itemsText (ps : List (List Char)) (t : List Char) :
    arrayText? (itemsText ps ++ ']' :: t) = some (itemsText ps, t) := by
  unfold arrayText?
  rw [enclosed?_itemsText (by simp)]
  rfl

/-- **An array of texts is read back** when every text of it is. -/
theorem readValue_itemsText {ps : List (List Char)} (hps : ∀ p ∈ ps, ReadsBack p) (strict : Bool)
    (t : List Char) {fuel : Nat} (hfuel : ps.length < fuel) :
    readValue (fuel + 1) strict ('[' :: (itemsText ps ++ ']' :: t)) = .ok (.list (textValues ps), t) := by
  obtain ⟨pieces, hpieces, htexts⟩ := readPieces_itemsText fun p hp => (hps p hp).comma
  rw [readValue, arrayText?_itemsText]
  show (do
    let items ← readItems fuel none (← readPieces (itemsText ps))
    return (Value.list items, t)) = _
  rw [hpieces]
  show (do
    let items ← readItems fuel none pieces
    return (Value.list items, t)) = _
  rw [readItems_quoted hps htexts rfl hfuel]
  rfl

end WordLint.Toml
