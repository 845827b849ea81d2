import WordLint.Proofs.Markup.Reports

/-!
# Where tags and comments close

Each scanner says how many characters it takes. For tags and comments the last of them is a `>`: the scanners
are gone through one by one (`scan_closes`, `commentEnd?_closes`, `closing?_closes` and so on), and
**`first_closes`** puts them together. It also says where a tag leads, whatever it stood in: a start tag may
lead into raw content, and an end tag or a comment leads into ordinary content.

`closing?_eq_some` takes apart what is found as the end tag of a raw element.
-/

namespace WordLint.Markup

/-! ## Scanners -/

/-- The first `n` characters end in `>`. -/
def ClosesAt (cs : List Char) (n : Nat) : Prop :=
  ∃ k, n = k + 1 ∧ cs[k]? = some '>'

theorem ClosesAt.getLast? {cs : List Char} {n : Nat} (h : ClosesAt cs n) :
    (cs.take n).getLast? = some '>' := by
  obtain ⟨k, rfl, hk⟩ := h
  rw [List.take_add_one, hk, Option.toList_some, List.getLast?_concat]

theorem ClosesAt.of_drop {cs : List Char} {m n : Nat} (h : ClosesAt (cs.drop m) n) :
    ClosesAt cs (m + n) := by
  obtain ⟨k, rfl, hk⟩ := h
  exact ⟨m + k, rfl, List.getElem?_drop ▸ hk⟩

theorem closesAt_of_head? {cs : List Char} {n : Nat} (h : (cs.drop n).head? = some '>') :
    ClosesAt cs (n + 1) :=
  ⟨n, rfl, List.head?_drop ▸ h⟩

theorem ClosesAt.cons {cs : List Char} {n : Nat} (h : ClosesAt cs n) (c : Char) :
    ClosesAt (c :: cs) (n + 1) := by
  obtain ⟨k, rfl, hk⟩ := h
  exact ⟨k + 1, rfl, hk⟩

theorem lengthThrough?_closes {cs : List Char} {n : Nat} (h : lengthThrough? '>' cs = some n) :
    ClosesAt cs n := by
  unfold lengthThrough? at h
  obtain ⟨k, hk, rfl⟩ := Option.map_eq_some_iff.mp h
  obtain ⟨hlt, heq, -⟩ := List.findIdx?_eq_some_iff_getElem.mp hk
  refine ⟨k, rfl, ?_⟩
  rw [List.getElem?_eq_getElem hlt, beq_iff_eq.mp heq]

theorem commentEnd?_closes {cs : List Char} {n : Nat} (h : commentEnd? cs = some n) : ClosesAt cs n := by
  fun_induction commentEnd? cs generalizing n with
  | case1 =>
    rename_i rest gap hclose
    cases h
    exact ((closesAt_of_head? hclose).cons '-').cons '-'
  | case2 =>
    rename_i ih
    obtain ⟨m, hm, rfl⟩ := Option.map_eq_some_iff.mp h
    exact (ih hm).cons '-'
  | case3 c rest hother ih =>
    obtain ⟨m, hm, rfl⟩ := Option.map_eq_some_iff.mp h
    exact (ih hm).cons c
  | case4 => cases h

/-! ## Start tags, end tags and comments -/

/-- A start tag is scanned up to its `>`; the length counts from the `<`. -/
theorem scan_closes {cs name : List Char} {attributes : List Tag.RawAttribute} {close : Bool} {length : Nat}
    (h : Tag.scan cs = .tag name attributes close length) : ClosesAt cs (length - 1) := by
  unfold Tag.scan at h
  dsimp only at h
  split at h
  · rename_i hbehind
    have hclose := congrArg (·[0]?) hbehind
    rw [List.getElem?_drop] at hclose
    cases h
    exact ⟨_, by omega, hclose⟩
  · rename_i hbehind
    have hclose := congrArg (·[1]?) hbehind
    rw [List.getElem?_drop] at hclose
    cases h
    exact ⟨_, by omega, hclose⟩
  · split at h <;> cases h
  · cases h

/-- A construct that is searched for goes on to its `>`, when it is no text. -/
theorem upTo_closes {role : Role} {opening : Nat} {rest : List Char} {search : List Char → Option Nat}
    (hsearch : ∀ {cs n}, search cs = some n → ClosesAt cs n) (hopening : 1 ≤ opening) {p : Piece}
    (h : upTo role opening rest search = .ok p) (hp : p.role ≠ .text) : ClosesAt rest p.extra := by
  unfold upTo at h
  split at h
  · rename_i n hn
    cases h
    obtain ⟨k, hk, hclose⟩ := (hsearch hn).of_drop
    refine ⟨k, ?_, hclose⟩
    show opening + n - 1 = k + 1
    omega
  · exact absurd (unended_role h) hp

/-- A name that an end tag can be well-formed with is followed by `>`. -/
theorem wellFormedEnd?_closes {cs name : List Char} {n : Nat} (h : wellFormedEnd? cs = some (name, n)) :
    ClosesAt cs n := by
  unfold wellFormedEnd? at h
  dsimp only at h
  split at h
  · rename_i hformed
    cases h
    have hclose := closesAt_of_head? (of_decide_eq_true (Bool.and_eq_true_iff.mp hformed).2)
    rw [Nat.add_assoc]
    exact hclose.of_drop
  · cases h

theorem extra_ofLength (role : Role) (n : Nat) : (Piece.ofLength role (2 + n)).extra = n + 1 := by
  show 2 + n - 1 = n + 1
  omega

theorem endTag_closes {cs : List Char} {p : Piece} (h : endTag cs = .ok p) (hp : p.role.marks = true) :
    ClosesAt ('/' :: cs) p.extra := by
  unfold endTag at h
  split at h
  · rw [unended_role h] at hp
    cases hp
  · rename_i through hthrough
    split at h
    · rename_i name n hformed
      cases h
      rw [extra_ofLength]
      exact (wellFormedEnd?_closes hformed).cons '/'
    · split at h
      · cases h
        rw [extra_ofLength]
        exact (lengthThrough?_closes hthrough).cons '/'
      · split at h
        · cases h
          cases hp
        · cases h
          rw [extra_ofLength]
          exact (lengthThrough?_closes hthrough).cons '/'

theorem declaration_closes {cs : List Char} {p : Piece} (h : declaration cs = .ok p)
    (hp : p.role.marks = true) : ClosesAt ('!' :: cs) p.extra := by
  have htext : p.role ≠ .text := by
    intro htext
    rw [htext] at hp
    cases hp
  unfold declaration at h
  split at h
  · exact upTo_closes commentEnd?_closes (by omega) h htext
  · exact absurd (bracketSection_role h) htext
  · split at h
    · exact upTo_closes lengthThrough?_closes (by omega) h htext
    · exact upTo_closes lengthThrough?_closes (by omega) h htext

theorem startTag_closes {cs : List Char} {p : Piece} (h : startTag cs = .ok p)
    (hp : p.role.marks = true) : ClosesAt cs p.extra := by
  unfold startTag at h
  split at h
  · rename_i name attributes close length hscan
    cases hread : attributes.mapM readAttribute with
    | error fault =>
      rw [hread] at h
      cases h
    | ok read =>
      rw [hread] at h
      cases h
      exact scan_closes hscan
  · cases h
    cases hp
  · rw [unended_role h] at hp
    cases hp

/-- A tag or comment of ordinary content stands between `<` and `>`. -/
theorem ofContent_closes {c : Char} {rest : List Char} {p : Piece} (h : Piece.ofContent c rest = .ok p)
    (hp : p.role.marks = true) : c = '<' ∧ ClosesAt rest p.extra := by
  unfold Piece.ofContent at h
  split at h
  · rename_i hc
    refine ⟨hc, ?_⟩
    unfold Piece.atMarkup at h
    split at h
    · exact endTag_closes h hp
    · rw [(upTo_role h).elim id id] at hp
      cases hp
    · exact declaration_closes h hp
    · split at h
      · exact startTag_closes h hp
      · cases h
        cases hp
    · cases h
      cases hp
  · rw [textPiece_role h] at hp
    cases hp

/-! ## The end of a raw element -/

/-- The blanks at the front, and what follows them. -/
theorem blanks_append_drop (cs : List Char) :
    cs.takeWhile Text.isBlank ++ cs.drop (cs.takeWhile Text.isBlank).length = cs :=
  List.prefix_iff_eq_append.mp (List.takeWhile_prefix _)

/-- What is found as the end tag of a raw element. -/
theorem closing?_eq_some {name cs letters : List Char} {n : Nat} (h : closing? name cs = some (letters, n)) :
    ∃ before after rest, cs = '<' :: '/' :: (before ++ letters ++ after) ++ '>' :: rest ∧
      (∀ c ∈ before, Text.isBlank c = true) ∧ (∀ c ∈ after, Text.isBlank c = true) ∧
      spells name letters = true ∧ n = before.length + letters.length + after.length + 3 := by
  unfold closing? at h
  split at h
  · rename_i rest
    have hrest := blanks_append_drop rest
    have hblank : ∀ c ∈ rest.takeWhile Text.isBlank, Text.isBlank c = true := fun _ => List.mem_takeWhile_imp
    dsimp only at h
    generalize rest.takeWhile Text.isBlank = before at h hrest hblank
    have hletters := List.take_append_drop name.length (rest.drop before.length)
    rw [List.drop_drop] at hletters
    generalize rest.drop (before.length + name.length) = behind at h hletters
    generalize (rest.drop before.length).take name.length = letters' at h hletters
    have hbehind := blanks_append_drop behind
    have hblank' : ∀ c ∈ behind.takeWhile Text.isBlank, Text.isBlank c = true :=
      fun _ => List.mem_takeWhile_imp
    generalize behind.takeWhile Text.isBlank = after at h hbehind hblank'
    split at h
    · rename_i hformed
      obtain ⟨hspells, hclose⟩ := Bool.and_eq_true_iff.mp hformed
      obtain ⟨more, hmore⟩ := List.head?_eq_some_iff.mp (of_decide_eq_true hclose)
      cases h
      refine ⟨before, after, more, ?_, hblank, hblank', hspells, ?_⟩
      · rw [← hrest, ← hletters, ← hbehind, hmore]
        simp
      · rw [← beq_iff_eq.mp (Bool.and_eq_true_iff.mp hspells).1]
    · cases h
  · cases h

/-- An end tag of a raw element goes on to its `>`. -/
theorem closing?_closes {name cs letters : List Char} {n : Nat} (h : closing? name cs = some (letters, n)) :
    ∃ rest, cs = '<' :: rest ∧ ClosesAt rest (n - 1) := by
  obtain ⟨before, after, rest, rfl, -, -, -, rfl⟩ := closing?_eq_some h
  refine ⟨'/' :: (before ++ letters ++ after) ++ '>' :: rest, rfl,
    ('/' :: (before ++ letters ++ after)).length, ?_, ?_⟩
  · simp only [List.length_cons, List.length_append]
    omega
  · rw [List.getElem?_append_right (Nat.le_refl _), Nat.sub_self]
    rfl

/-- Only its own end tag marks the content of a raw element, and leads out of it. -/
theorem ofRaw_closes {name : String} {c : Char} {rest : List Char} {piece : Piece} {next : Inside}
    (h : Piece.ofRaw name (c :: rest) = (piece, next)) (hp : piece.role.marks = true) :
    c = '<' ∧ ClosesAt rest piece.extra ∧ next = piece.role.inside := by
  unfold Piece.ofRaw at h
  split at h
  · cases h
    cases hp
  · cases h
    cases hp
  · split at h
    · cases h
      cases hp
    · rename_i letters length hclosing
      split at h
      · cases h
        obtain ⟨rest', heq, hclose⟩ := closing?_closes hclosing
        cases heq
        exact ⟨rfl, hclose, rfl⟩
      · cases h
        cases hp

/-- **A tag or comment stands between `<` and `>`**, and its role says where it leads. -/
theorem first_closes {inside next : Inside} {c : Char} {rest : List Char} {piece : Piece}
    (h : Piece.first inside c rest = .ok (piece, next)) (hp : piece.role.marks = true) :
    c = '<' ∧ ClosesAt rest piece.extra ∧ next = piece.role.inside := by
  unfold Piece.first at h
  cases inside with
  | some name => exact ofRaw_closes (Except.ok.inj h) hp
  | none =>
    cases hpiece : Piece.ofContent c rest with
    | error fault =>
      rw [hpiece] at h
      cases h
    | ok p =>
      rw [hpiece] at h
      cases h
      obtain ⟨hc, hclose⟩ := ofContent_closes hpiece hp
      exact ⟨hc, hclose, rfl⟩

end WordLint.Markup
