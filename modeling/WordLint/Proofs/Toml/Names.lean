import Mathlib
import WordLint.Proofs.Text.Characters
import WordLint.Proofs.Toml.Arrays

/-!
# Names of tables

The name of a table stands in a header with a point between its parts, a part between marks where it
needs them. A header is cut at all its points before its parts are read, and parts are joined again until
they end in a mark; escapes are not resolved.

**The law** (`headerNames?_written`): the last part of a name is read back when it is `NameKept`: it is not
empty, all its characters are written as themselves, and no blank stands directly before its first point.
-/

namespace WordLint.Toml

/-- The name of a table is read back from a header. -/
structure NameKept (name : List Char) : Prop where
  ne_nil : name ≠ []
  plain : ∀ c ∈ name, basicChar c = [c]
  point : '.' ∈ name → trimEnd (name.takeWhile (· ≠ '.')) = name.takeWhile (· ≠ '.')

instance (name : List Char) : Decidable (NameKept name) :=
  @decidable_of_iff _ (name ≠ [] ∧ (∀ c ∈ name, basicChar c = [c]) ∧
      ('.' ∈ name → trimEnd (name.takeWhile (· ≠ '.')) = name.takeWhile (· ≠ '.')))
    ⟨fun h => ⟨h.1, h.2.1, h.2.2⟩, fun h => ⟨h.ne_nil, h.plain, h.point⟩⟩
    (@instDecidableAnd _ _ inferInstance (@instDecidableAnd _ _ (List.decidableBAll _ name) inferInstance))

theorem NameKept.written {name : List Char} (h : NameKept name) : written name = name := by
  rw [Toml.written, List.flatMap_congr h.plain]
  simp

/-- Neither a mark nor a line break is written as itself. -/
theorem NameKept.no_mark {name : List Char} (h : NameKept name) : '"' ∉ name ∧ '\n' ∉ name :=
  ⟨fun hmem => absurd (h.plain _ hmem) (by decide), fun hmem => absurd (h.plain _ hmem) (by decide)⟩

/-! ## Where a header ends -/

/-- Characters between marks are passed over, up to the closing one. -/
theorem headerText?_inside {cs : List Char} (hmark : '"' ∉ cs) (hbreak : '\n' ∉ cs) (t : List Char) :
    headerText? (some '"') (cs ++ '"' :: t) =
      (headerText? none t).map fun (text, after) => (cs ++ '"' :: text, after) := by
  induction cs with
  | nil => rfl
  | cons c cs ih =>
    have hc : c ≠ '"' := fun h => hmark (by rw [h]; exact List.mem_cons_self)
    have hn : c ≠ '\n' := fun h => hbreak (by rw [h]; exact List.mem_cons_self)
    rw [List.cons_append, headerText?, if_neg hn, if_neg (by simp)]
    simp only [hc, if_false]
    rw [ih (fun h => hmark (List.mem_cons_of_mem _ h)) (fun h => hbreak (List.mem_cons_of_mem _ h)),
      Option.map_map]
    rfl

/-- Characters outside of marks are passed over, up to the closing bracket. -/
theorem headerText?_outside {cs : List Char} (h : ∀ c ∈ cs, isBare c ∨ c = '.') (t : List Char) :
    headerText? none (cs ++ t) = (headerText? none t).map fun (text, after) => (cs ++ text, after) := by
  induction cs with
  | nil => simp
  | cons c cs ih =>
    have hc := h c List.mem_cons_self
    have hother : c ≠ '\n' ∧ c ≠ ']' ∧ isMark c = false := by
      refine ⟨?_, ?_, ?_⟩
      · rintro rfl; exact absurd hc (by decide)
      · rintro rfl; exact absurd hc (by decide)
      · by_contra hmark
        rw [Bool.not_eq_false, isMark, Bool.or_eq_true, beq_iff_eq, beq_iff_eq] at hmark
        rcases hmark with rfl | rfl <;> exact absurd hc (by decide)
    obtain ⟨hbreak, hbracket, hmark⟩ := hother
    rw [List.cons_append, headerText?, if_neg hbreak, if_neg (by simp [hbracket])]
    simp only [hmark, Bool.false_eq_true, if_false]
    rw [ih fun c hc => h c (List.mem_cons_of_mem _ hc), Option.map_map]
    rfl

/-- A key as it is written, as characters. -/
def keyChars (name : List Char) : List Char :=
  if !name.isEmpty && name.all isBare then name else quoted name

theorem toList_keyText (key : String) : (keyText key).toList = keyChars key.toList := by
  unfold keyText keyChars basicText quoted written
  have hempty : key.isEmpty = key.toList.isEmpty := by
    rw [Bool.eq_iff_iff, String.isEmpty_iff, List.isEmpty_iff, String.toList_eq_nil_iff]
  rw [hempty]
  split
  · rfl
  · rw [String.toList_ofList]
    rfl

/-- **A header ends** at the bracket behind its name. -/
theorem headerText?_written {table name : List Char} (htable : ∀ c ∈ table, isBare c)
    (hname : NameKept name) (t : List Char) :
    headerText? none (table ++ '.' :: keyChars name ++ ']' :: t) =
      some (table ++ '.' :: keyChars name, t) := by
  have hend : headerText? none (']' :: t) = some ([], t) := rfl
  have hfront : ∀ c ∈ table ++ ['.'], isBare c ∨ c = '.' := by
    intro c hc
    rcases List.mem_append.mp hc with hc | hc
    · exact Or.inl (htable c hc)
    · exact Or.inr (List.mem_singleton.mp hc)
  have hsplit : table ++ '.' :: keyChars name ++ ']' :: t =
      (table ++ ['.']) ++ (keyChars name ++ ']' :: t) := by simp
  have hkey : headerText? none (keyChars name ++ ']' :: t) = some (keyChars name, t) := by
    unfold keyChars
    split
    · rename_i hbare
      rw [Bool.and_eq_true, List.all_eq_true] at hbare
      rw [headerText?_outside fun c hc => Or.inl (hbare.2 c hc), hend]
      simp
    · have hno := hname.no_mark
      rw [quoted_append, hname.written]
      show Option.map _ (headerText? (some '"') (name ++ '"' :: ']' :: t)) = _
      rw [headerText?_inside hno.1 hno.2, hend, quoted, hname.written]
      rfl
  rw [hsplit, headerText?_outside hfront, hkey]
  simp

/-! ## The parts of a header -/

/-- Characters of bare parts are neither blanks nor marks nor points. -/
theorem isBare_facts {c : Char} (h : isBare c = true) :
    Text.isBlank c = false ∧ isMark c = false ∧ c ≠ '.' := by
  have hlt : c.toNat < 128 := by
    simp only [isBare, Bool.or_eq_true, beq_iff_eq] at h
    rcases h with (h | rfl) | rfl
    · exact Text.toNat_lt_of_isAlphanum h
    · decide
    · decide
  have hfacts := Text.forall_ascii (P := fun c => isBare c = true →
    (!Text.isBlank c && !isMark c && c != '.') = true) (by decide +kernel) hlt
  simpa [and_assoc] using hfacts h

/-- A bare part is taken as it is. -/
theorem take?_bare {name : List Char} (hne : name ≠ []) (hbare : ∀ c ∈ name, isBare c)
    (done : List String) :
    HeaderParts.take? ⟨done, none⟩ name = some ⟨done ++ [String.ofList name], none⟩ := by
  have htrim : Text.trim name = name := Text.trim_of_not_blank fun c hc => (isBare_facts (hbare c hc)).1
  have hbare? : bare? name = some (String.ofList name) := by
    unfold bare?
    rw [if_neg]
    simpa [hne] using hbare
  unfold HeaderParts.take?
  dsimp only
  rw [htrim, hbare?, if_neg]
  · rfl
  · cases name with
    | nil => exact Bool.false_ne_true
    | cons c name => simp [(isBare_facts (hbare c List.mem_cons_self)).2.1]

/-- A quoted part without its closing mark goes on behind the point. -/
theorem takeQuoted_open {x : List Char} (hx : '"' ∉ x) (p : HeaderParts) :
    p.takeQuoted ('"' :: x) = ⟨p.done, some ('"' :: x)⟩ := by
  unfold HeaderParts.takeQuoted
  dsimp only
  rw [trim_mark, if_neg]
  obtain ⟨blanks, hblanks, _⟩ := exists_blanks x
  rcases List.eq_nil_or_concat' (trimEnd x) with hnil | ⟨v, d, hv⟩
  · rw [hnil]
    decide
  · have hd : d ≠ '"' := by
      rintro rfl
      refine hx ?_
      rw [hblanks, hv]
      simp
    rw [hv, ← List.cons_append, List.getLast?_concat]
    simp [Ne.symm hd]

/-- A quoted part with its closing mark is complete. -/
theorem takeQuoted_closed (x : List Char) (p : HeaderParts) :
    p.takeQuoted ('"' :: (x ++ ['"'])) = ⟨p.done ++ [String.ofList x], none⟩ := by
  unfold HeaderParts.takeQuoted
  dsimp only
  rw [trim_mark, trimEnd_of_last rfl, if_pos]
  · rw [List.tail_cons, List.dropLast_concat]
  · rw [← List.cons_append, List.getLast?_concat]
    simp

/-- A part that begins with a mark is taken as a quoted one. -/
theorem take?_mark (done : List String) (x : List Char) :
    HeaderParts.take? ⟨done, none⟩ ('"' :: x) =
      some (HeaderParts.takeQuoted ⟨done, none⟩ ('"' :: trimEnd x)) := by
  unfold HeaderParts.take?
  dsimp only
  rw [trim_mark]
  rfl

/-- A quoted part ends with its last piece. -/
theorem foldlM_quoted_last (done : List String) (x : List Char) {rest : List Char} (hpoint : '.' ∉ rest) :
    (Text.cutAt '.' (rest ++ ['"'])).foldlM HeaderParts.take? ⟨done, some ('"' :: x)⟩ =
      some ⟨done ++ [String.ofList (x ++ '.' :: rest)], none⟩ := by
  rw [Text.cutAt_of_notMem (by simpa using hpoint), List.foldlM_cons]
  have hjoin : x ++ '.' :: (rest ++ ['"']) = (x ++ '.' :: rest) ++ ['"'] := by simp
  show (some (HeaderParts.takeQuoted _ ('"' :: (x ++ '.' :: (rest ++ ['"']))))) >>= _ = _
  rw [hjoin, takeQuoted_closed]
  rfl

/-- The rest of a quoted part is joined to what has been read of it, point by point. -/
theorem foldlM_quoted (done : List String) {n : Nat} {x rest : List Char} (hlength : rest.length ≤ n)
    (hx : '"' ∉ x) (hrest : '"' ∉ rest) :
    (Text.cutAt '.' (rest ++ ['"'])).foldlM HeaderParts.take? ⟨done, some ('"' :: x)⟩ =
      some ⟨done ++ [String.ofList (x ++ '.' :: rest)], none⟩ := by
  induction n generalizing x rest with
  | zero =>
    rw [List.length_eq_zero_iff.mp (Nat.le_zero.mp hlength)]
    exact foldlM_quoted_last done x List.not_mem_nil
  | succ n ih =>
    by_cases hpoint : '.' ∈ rest
    · -- a piece before the last one leaves the part open
      obtain ⟨a, b, rfl, ha⟩ := List.eq_append_cons_of_mem hpoint
      rw [List.append_assoc, List.cons_append, Text.cutAt_append, Text.cutAt_of_notMem ha, List.singleton_append,
        List.foldlM_cons]
      show (some (HeaderParts.takeQuoted _ ('"' :: (x ++ '.' :: a)))) >>= _ = _
      have hopen : '"' ∉ x ++ '.' :: a := by
        simp only [List.mem_append, List.mem_cons, not_or] at hrest ⊢
        exact ⟨hx, by decide, hrest.1⟩
      have hshorter : b.length ≤ n := by
        simp only [List.length_append, List.length_cons] at hlength
        omega
      have hmore := ih hshorter hopen fun hmem => hrest (List.mem_append_right _ (List.mem_cons_of_mem _ hmem))
      rw [takeQuoted_open hopen]
      refine Eq.trans hmore ?_
      simp
    · exact foldlM_quoted_last done x hpoint

/-- A quoted name is one part, with points in it or without. -/
theorem foldlM_name (done : List String) {name : List Char} (hname : NameKept name) :
    (Text.cutAt '.' ('"' :: (name ++ ['"']))).foldlM HeaderParts.take? ⟨done, none⟩ =
      some ⟨done ++ [String.ofList name], none⟩ := by
  by_cases hpoint : '.' ∈ name
  · obtain ⟨a, b, hab, ha⟩ := List.eq_append_cons_of_mem hpoint
    have hfirst : name.takeWhile (· ≠ '.') = a := by
      have hne : ∀ c ∈ a, decide (c ≠ '.') = true := by
        intro c hc
        rw [decide_eq_true_iff]
        rintro rfl
        exact ha hc
      rw [hab, List.takeWhile_append_of_pos hne]
      simp
    have hends := hname.point hpoint
    rw [hfirst] at hends
    have hmark := hname.no_mark.1
    rw [hab] at hmark ⊢
    have hsplit : '"' :: (a ++ '.' :: b ++ ['"']) = ('"' :: a) ++ '.' :: (b ++ ['"']) := by simp
    simp only [List.mem_append, List.mem_cons, not_or] at hmark
    rw [hsplit, Text.cutAt_append, Text.cutAt_of_notMem (by simpa using ha), List.singleton_append,
      List.foldlM_cons, take?_mark, hends, takeQuoted_open hmark.1]
    exact foldlM_quoted done (Nat.le_refl _) hmark.1 hmark.2.2
  · rw [Text.cutAt_of_notMem (by simpa using hpoint), List.foldlM_cons, take?_mark, trimEnd_of_last rfl,
      takeQuoted_closed]
    rfl

/-- A name as it is written is one part. -/
theorem foldlM_keyChars (done : List String) {name : List Char} (hname : NameKept name) :
    (Text.cutAt '.' (keyChars name)).foldlM HeaderParts.take? ⟨done, none⟩ =
      some ⟨done ++ [String.ofList name], none⟩ := by
  unfold keyChars
  split
  · rename_i hbare
    rw [Bool.and_eq_true, List.all_eq_true] at hbare
    rw [Text.cutAt_of_notMem fun hmem => (isBare_facts (hbare.2 _ hmem)).2.2 rfl, List.foldlM_cons,
      take?_bare hname.ne_nil hbare.2]
    rfl
  · rw [quoted, hname.written]
    exact foldlM_name done hname

/-- **The last part of a name is read back.** -/
theorem headerNames?_written {table name : List Char} (hne : table ≠ [])
    (htable : ∀ c ∈ table, isBare c) (hname : NameKept name) :
    headerNames? (table ++ '.' :: keyChars name) = some [String.ofList table, String.ofList name] := by
  have htables : '.' ∉ table := fun hmem => (isBare_facts (htable _ hmem)).2.2 rfl
  have hsome : ∀ cs : List Char, cs ≠ [] → ("" == String.ofList cs) = false := by
    intro cs hcs
    rw [beq_eq_false_iff_ne, ne_comm, Ne, String.ofList_eq_empty_iff]
    exact hcs
  unfold headerNames?
  rw [Text.cutAt_append, Text.cutAt_of_notMem htables, List.singleton_append, List.foldlM_cons,
    take?_bare hne htable]
  show (do
    let parts ← (Text.cutAt '.' (keyChars name)).foldlM HeaderParts.take? ⟨[String.ofList table], none⟩
    if parts.quoted.isSome || parts.done.contains "" then none else some parts.done) = _
  rw [foldlM_keyChars _ hname]
  show (if (false || (("" == String.ofList table) || (("" == String.ofList name) || false))) = true then none
    else some [String.ofList table, String.ofList name]) = _
  rw [hsome table hne, hsome name hname.ne_nil]
  rfl

/-! ## Keys -/

/-- **A bare key** is read up to the sign behind it. -/
theorem key?_bare {key : List Char} (hne : key ≠ []) (hbare : ∀ c ∈ key, isBare c) (t : List Char) :
    key? (key ++ ' ' :: '=' :: t) = some ([String.ofList key], '=' :: t) := by
  obtain ⟨c, cs, rfl⟩ := List.exists_cons_of_ne_nil hne
  have hc : isSpace c = false ∧ isMark c = false := by
    obtain ⟨hblank, hmark, _⟩ := isBare_facts (hbare c List.mem_cons_self)
    refine ⟨?_, hmark⟩
    by_contra hspace
    rw [Bool.not_eq_false, isSpace, Bool.or_eq_true, beq_iff_eq, beq_iff_eq] at hspace
    rcases hspace with rfl | rfl <;> exact absurd hblank (by decide)
  have htake : (c :: cs ++ ' ' :: '=' :: t).takeWhile isBare = c :: cs := by
    rw [List.takeWhile_append_of_pos hbare, List.takeWhile_cons_of_neg (by decide), List.append_nil]
  have hpart : keyPart? (c :: cs ++ ' ' :: '=' :: t) = some ((false, c :: cs), ' ' :: '=' :: t) := by
    unfold keyPart?
    rw [htake]
    simp only [List.cons_append, hc.2, Bool.false_eq_true, if_false, List.isEmpty_cons]
    rw [← List.cons_append, List.drop_left]
  unfold key? keyParts?
  rw [List.cons_append, List.dropWhile_cons_of_neg (by simp [hc.1]), ← List.cons_append, hpart]
  rfl

end WordLint.Toml
