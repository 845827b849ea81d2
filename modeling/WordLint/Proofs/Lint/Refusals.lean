import WordLint.Proofs.Lint.Outcomes
import WordLint.Proofs.Value.Oversized

/-!
# Refused options that cannot be shown

The diagnostic about refused options shows them. Containers that contain themselves, keys of any kind and values
that JSON has no form for are all shown; an integer with too many digits is not, and then the rule that is given
the options stops with an error of its own, and no diagnostic is left.

**The law** (`refusal_shown_iff`) says which options end in which of the two. `power_unshown` is an integer that
cannot be shown.
-/

namespace WordLint

open Recorded

theorem refusal_not_isShort (s : Schema) {v : Value} (h : v.isShort = false) :
    s.refusal v = .error .oversized := by
  unfold Schema.refusal
  rw [Value.serialize_not_isShort h]
  rfl

/-- A rule that cannot show what it refuses leaves its host as it is. -/
theorem attach_unshown (h : Host) {s : Schema} {v : Value} (hlong : v.isShort = false)
    (habsent : ¬ v.Absent) (hrefused : ∀ o, ¬ s.Admits v o) :
    h.attach s v = (h, some (.numeral .oversized)) := by
  obtain ⟨objection, hobjection⟩ := Schema.exists_objection hrefused
  have hlisten : s.listen v =
      ⟨[.objection s.rule objection, .refused s.rule], .error (.numeral .oversized)⟩ := by
    unfold Schema.listen
    rw [if_neg (mt Value.isAbsent_iff.mp habsent), hobjection, refusal_not_isShort s hlong]
    rfl
  unfold Host.attach
  rw [hlisten]
  show (Host.mk h.subscriptions (h.log ++ []), _) = _
  rw [List.append_nil]
  rfl

/-- **Refused options.** A value has a serialized form exactly when no integer inside it has too many digits, and
this is the only error. So options that are neither absent nor accepted end as one diagnostic that shows them, or,
with such an integer, as an error without any diagnostic. -/
theorem refusal_shown_iff (s : Schema) (v : Value) :
    ((∃ text, v.serialize = .ok text) ↔ v.isShort = true) ∧
    (v.isShort = false → v.serialize = .error .oversized) ∧
    ∀ h : Host, ¬ v.Absent → (∀ o, ¬ s.Admits v o) →
      (v.isShort = true → ∃ message, s.refusal v = .ok message ∧
        h.attach s v =
          (⟨h.subscriptions, h.log ++ [⟨.error, message, 1, 1, s.rule, ""⟩]⟩, Option.none)) ∧
      (v.isShort = false → h.attach s v = (h, some (.numeral .oversized))) :=
  ⟨Value.serialize_eq_ok_iff, Value.serialize_not_isShort, fun h habsent hrefused =>
    ⟨fun hshort => attach_refused h hshort habsent hrefused,
      fun hlong => attach_unshown h hlong habsent hrefused⟩⟩

/-- A list that contains itself and, in a set, a date: it is shown, since it holds no integer at all. -/
theorem refusal_shown_circular :
    Value.serialize (.list [.up 0, .set [.date ⟨2020, 1, 2⟩]]) =
        .ok "[[...], \x7bdatetime.date(2020, 1, 2)\x7d]" ∧
      ∃ message, Schema.blockWords.refusal (.list [.up 0, .set [.date ⟨2020, 1, 2⟩]]) = .ok message ∧
        Host.empty.attach .blockWords (.list [.up 0, .set [.date ⟨2020, 1, 2⟩]]) =
          (⟨[], [⟨.error, message, 1, 1, "block-words", ""⟩]⟩, Option.none) := by
  have hshown : Value.serialize (.list [.up 0, .set [.date ⟨2020, 1, 2⟩]]) =
      .ok "[[...], \x7bdatetime.date(2020, 1, 2)\x7d]" := by
    decide +kernel
  have habsent : ¬ Value.Absent (.list [.up 0, .set [.date ⟨2020, 1, 2⟩]]) := by
    rintro ⟨htruthy, _⟩
    cases htruthy
  have hrefused : ∀ o, ¬ Schema.blockWords.Admits (.list [.up 0, .set [.date ⟨2020, 1, 2⟩]]) o := by
    intro o hadmits
    cases Schema.read_eq_ok_iff.mpr hadmits
  obtain ⟨hiff, _, hattach⟩ := refusal_shown_iff .blockWords (.list [.up 0, .set [.date ⟨2020, 1, 2⟩]])
  exact ⟨hshown, (hattach Host.empty habsent hrefused).1 (hiff.mp ⟨_, hshown⟩)⟩

/-- The smallest integer with too many digits: as the options of a rule it is refused, and stops the rule. -/
theorem power_unshown :
    Value.serialize (.int (10 ^ 4300)) = .error .oversized ∧
      Host.empty.attach .blockWords (.int (10 ^ 4300)) = (Host.empty, some (.numeral .oversized)) := by
  have hlong : Value.isShort (.int (10 ^ 4300)) = false := by decide +kernel
  have habsent : ¬ Value.Absent (.int (10 ^ 4300)) := by
    rintro ⟨htruthy, _⟩
    revert htruthy
    decide +kernel
  have hrefused : ∀ o, ¬ Schema.blockWords.Admits (.int (10 ^ 4300)) o := by
    intro o hadmits
    cases Schema.read_eq_ok_iff.mpr hadmits
  exact ⟨Value.serialize_not_isShort hlong, attach_unshown _ hlong habsent hrefused⟩

end WordLint
