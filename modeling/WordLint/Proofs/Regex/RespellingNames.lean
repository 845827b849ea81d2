import Mathlib
import WordLint.Proofs.Regex.RespellingItems

/-!
# Names and numbers of groups that are spelled alike

The names of groups read the same from a pattern and from one in which characters are written as escapes: no
identifier has one of these characters. The number of a group that a conditional asks for may have blanks around
it, line terminators among them, and an escape is no blank. So `askedGroup_quiet` leaves that case out
(`AsksPlainly`).
-/

namespace WordLint.Regex

variable {W : Char → Prop} {r₀ r r' : Reader} {k : Char}

/-! ## Names -/

/-- No identifier has a bracket in it, or one of the five characters. -/
theorem not_mem_identifier {name : List Char} (h : Text.isIdentifier name = true) {c : Char}
    (hc : c = '[' ∨ (spelling? c).isSome) : c ∉ name := by
  have hnone : Text.startsIdentifier c = false ∧ Text.continuesIdentifier c = false := by
    rcases hc with rfl | hc
    · decide +kernel
    · exact forall_spelling? (P := fun c => Text.startsIdentifier c = false ∧ Text.continuesIdentifier c = false)
        (by decide +kernel) hc
  cases name with
  | nil => exact List.not_mem_nil
  | cons d ds =>
    rw [Text.isIdentifier, Bool.and_eq_true] at h
    intro hmem
    rcases List.mem_cons.mp hmem with rfl | hmem
    · rw [hnone.1] at h
      cases h.1
    · rw [List.all_eq_true.mp h.2 c hmem] at hnone
      cases hnone.2

/-- A name reads the same when the characters in it that could be replaced are not. -/
theorem nameUntil_quiet (hk : spelling? k = none) (hk' : k ≠ '[') {fuel fuel' : Nat} (hfuel : fuel ≤ fuel')
    {taken : List Char} {name : String} {s : Reader} (h : Along W NoOpening r₀ r r')
    (hrun : (nameUntil k fuel taken).run r = .ok (name, s))
    (hname : ∀ c ∈ name.toList, c ≠ '[' ∧
      (W c → (spelling? c).isSome → .char c ∉ r.rest.takeWhile (· ≠ .char k))) :
    ∃ s', (nameUntil k fuel' taken).run r' = .ok (name, s') ∧ Along W NoOpening r₀ s s' := by
  induction fuel generalizing fuel' taken r r' with
  | zero => cases hrun
  | succ fuel ih =>
    obtain ⟨fuel', rfl⟩ : ∃ n, fuel' = n + 1 := ⟨fuel' - 1, by omega⟩
    obtain ⟨t, r₁, hnext, hrest⟩ := bind_ok hrun
    rcases next_pulls h.twins t r₁ hnext with ⟨t', r₁', hnext', hpulled⟩ | ⟨_, _, hnever⟩
    swap
    · exact hnever.elim
    cases hpulled with
    | none =>
      dsimp only at hrest
      split at hrest <;> cases hrest
    | @some t t' _ _ hpulled =>
      rw [nameUntil_next hnext] at hrun
      rw [nameUntil_next hnext']
      by_cases hend : t = .char k
      · rw [if_pos hend] at hrun
        rw [if_pos ((hpulled.sign hk).mp hend)]
        split at hrun
        · cases hrun
        · rename_i hempty
          rw [if_neg hempty]
          cases hrun
          subst hend
          obtain rfl := (hpulled.sign hk).mp rfl
          cases hpulled with
          | same t hfront hs =>
            refine ⟨r₁', rfl, h.through hs ?_⟩
            rintro _ rfl heq
            cases heq
            exact hk' rfl
      · rw [if_neg hend] at hrun
        rw [if_neg (mt (hpulled.sign hk).mpr hend)]
        have hpart : ∀ c ∈ t.chars, c ∈ name.toList := fun c hc =>
          (nameUntil_run hrun).1.subset (List.mem_append_right taken hc)
        have hfront : r.rest.takeWhile (· ≠ .char k) = t :: r₁.rest.takeWhile (· ≠ .char k) := by
          rw [hpulled.front, List.takeWhile_cons_of_pos (by simpa using hend)]
        cases hpulled with
        | same t _ hs =>
          refine ih (Nat.le_of_succ_le_succ hfuel) (h.through hs ?_) hrun ?_
          · rintro _ rfl heq
            subst heq
            exact (hname '[' (hpart '[' List.mem_cons_self)).1 rfl
          · intro c hc
            refine ⟨(hname c hc).1, fun hW hsome hmem => (hname c hc).2 hW hsome ?_⟩
            rw [hfront]
            exact List.mem_cons_of_mem _ hmem
        | @written c d ds us _ _ _ hc hd =>
          refine absurd ?_ ((hname c (hpart c List.mem_cons_self)).2 hc (Option.isSome_iff_exists.mpr ⟨_, hd⟩))
          rw [hfront]
          exact List.mem_cons_self

/-- A group name that is fine reads the same. -/
theorem groupName_quiet (hk : spelling? k = none) (hk' : k ≠ '[') {name : String} {s : Reader}
    (h : Along W NoOpening r₀ r r') (hrun : (groupName k).run r = .ok (name, s))
    (hname : ∀ c ∈ name.toList, c ≠ '[' ∧
      (W c → (spelling? c).isSome → .char c ∉ r.rest.takeWhile (· ≠ .char k))) :
    ∃ s', (groupName k).run r' = .ok (name, s') ∧ Along W NoOpening r₀ s s' :=
  nameUntil_quiet hk hk' (Nat.succ_le_succ h.twins.rest.length_le) h hrun hname

theorem identifier_quiet (h : Along W NoOpening r₀ r r') (hk : spelling? k = none) (hk' : k ≠ '[') :
    Quiet W r₀ (identifier k) r (identifier k) r' := by
  intro a t hrun
  unfold identifier at hrun ⊢
  obtain ⟨name, s, hname, hrest⟩ := bind_ok hrun
  dsimp only at hrest
  by_cases hidentifier : Text.isIdentifier name.toList = true
  · obtain ⟨s', hname', hs⟩ := groupName_quiet hk hk' h hname fun c hc => by
      refine ⟨?_, fun _ hsome => absurd hc (not_mem_identifier hidentifier (Or.inr hsome))⟩
      rintro rfl
      exact not_mem_identifier hidentifier (Or.inl rfl) hc
    rw [run_bind_ok hname']
    refine (?_ : Quiet W r₀ _ s _ s') a t hrest
    exact .check Iff.rfl ⟨_, rfl⟩ (.pure ⟨rfl, hs⟩)
  · rw [if_pos (by simpa using hidentifier)] at hrest
    cases hrest

theorem namedGroup_quiet (h : Along W NoOpening r₀ r r') (name : String) :
    Quiet W r₀ (namedGroup name) r (namedGroup name) r' := by
  unfold namedGroup
  refine Follows.get_bind ?_
  rw [h.twins.names]
  cases r'.names.lookup name with
  | some index => exact .pure ⟨rfl, h⟩
  | none => exact .refused rfl

/-! ## Numbers of groups -/

/-- No line terminator that is replaced stands in the number that a conditional asks for. -/
def AsksPlainly (W : Char → Prop) (ts : List Token) : Prop :=
  ∀ c, W c → Text.isNumeralBlank c = true → .char c ∉ ts.takeWhile (· ≠ .char ')')

/-- Of the characters of a numeral only blanks have an escape, and none is a bracket. -/
theorem numeral_chars {name : List Char} {n : Int} (h : Text.readInt name = .ok n) {c : Char}
    (hc : c ∈ name) : c ≠ '[' ∧ ((spelling? c).isSome → Text.isNumeralBlank c = true) := by
  have hfive : (spelling? c).isSome → Text.isDecimal c = false ∧ c ∉ ['_', '-', '+'] :=
    forall_spelling? (P := fun c => Text.isDecimal c = false ∧ c ∉ ['_', '-', '+']) (by decide +kernel)
  have hkinds := Text.readInt_chars h c hc
  constructor
  · rintro rfl
    exact absurd hkinds (by decide +kernel)
  · intro hsome
    rcases hkinds with hdecimal | hblank | hsign
    · rw [(hfive hsome).1] at hdecimal
      cases hdecimal
    · exact hblank
    · exact absurd hsign (hfive hsome).2

/-- Whether a group has been asked for does not depend on where. -/
theorem lookup_isSome_eq {as bs : List (Nat × Nat)} (h : as.map (·.1) = bs.map (·.1)) (n : Nat) :
    (as.lookup n).isSome = (bs.lookup n).isSome := by
  induction as generalizing bs with
  | nil =>
    cases bs with
    | nil => rfl
    | cons => cases h
  | cons a as ih =>
    cases bs with
    | nil => cases h
    | cons b bs =>
      obtain ⟨a, x⟩ := a
      obtain ⟨b, y⟩ := b
      rw [List.map_cons, List.map_cons] at h
      obtain ⟨rfl, htail⟩ := List.cons.inj h
      rw [List.lookup_cons, List.lookup_cons]
      dsimp only
      cases n == a with
      | true => rfl
      | false => exact ih htail

/-- The group that a conditional asks for. -/
theorem askedGroup_quiet (h : Along W NoOpening r₀ r r') (hasked : AsksPlainly W r.rest) :
    Quiet W r₀ askedGroup r askedGroup r' := by
  intro index u hrun
  unfold askedGroup at hrun ⊢
  obtain ⟨name, s, hname, hrest⟩ := bind_ok hrun
  dsimp only at hrest
  by_cases hidentifier : Text.isIdentifier name.toList = true
  · obtain ⟨s', hname', hs⟩ := groupName_quiet rfl (by decide) h hname fun c hc => by
      refine ⟨?_, fun _ hsome => absurd hc (not_mem_identifier hidentifier (Or.inr hsome))⟩
      rintro rfl
      exact not_mem_identifier hidentifier (Or.inl rfl) hc
    rw [run_bind_ok hname', if_pos hidentifier]
    rw [if_pos hidentifier] at hrest
    refine (?_ : Quiet W r₀ _ s _ s') index u hrest
    refine (namedGroup_quiet hs name).bind ?_
    rintro number t _ t' ⟨rfl, ht⟩
    exact (checkLookbehind_level ht number).bind fun hq => .pure ⟨rfl, hq.2⟩
  · rw [if_neg hidentifier] at hrest
    cases hint : Text.readInt name.toList with
    | error e =>
      rw [hint] at hrest
      cases hrest
    | ok n =>
      obtain ⟨s', hname', hs⟩ := groupName_quiet rfl (by decide) h hname fun c hc =>
        ⟨(numeral_chars hint hc).1, fun hW hsome => hasked c hW ((numeral_chars hint hc).2 hsome)⟩
      rw [run_bind_ok hname', if_neg hidentifier, hint]
      rw [hint] at hrest
      refine (?_ : Quiet W r₀ _ s _ s') index u hrest
      refine .check Iff.rfl ⟨_, rfl⟩ (.check Iff.rfl ⟨_, rfl⟩ (.check Iff.rfl ⟨_, rfl⟩ ?_))
      refine (Follows.modify (Q := Level W NoOpening r₀) ⟨rfl, ?_⟩).bind ?_
      · rw [lookup_isSome_eq hs.twins.asked]
        split
        · exact hs
        · refine ⟨⟨hs.twins.rest, hs.twins.flags, hs.twins.groups, hs.twins.names, hs.twins.lookbehindGroups, ?_⟩,
            ⟨hs.passes.taken, hs.passes.flags, hs.passes.dangling⟩⟩
          rw [List.map_append, List.map_append, hs.twins.asked]
          rfl
      · rintro _ t _ t' ⟨-, ht⟩
        exact (checkLookbehind_level ht _).bind fun hq => .pure ⟨rfl, hq.2⟩

end WordLint.Regex
