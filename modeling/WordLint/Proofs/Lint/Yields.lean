import Mathlib
import WordLint.Lint.Step

/-!
# Runs that come to a value

`Yields r a log` says that a run comes to the value `a` and that `log` is what it adds to the log, in
order. It goes along with the way runs are put together: a run behind another one adds its diagnostics
behind those of the first. So what a whole run reports is read off its parts, and its steps need not be
looked at again.
-/

namespace WordLint

theorem diagnosticsOf_append (steps more : List Step) :
    diagnosticsOf (steps ++ more) = diagnosticsOf steps ++ diagnosticsOf more := by
  unfold diagnosticsOf
  exact List.filterMap_append

namespace Recorded

variable {ε α β : Type} {r : Recorded Step ε α} {f : α → Recorded Step ε β} {a : α} {b : β}
  {log log' : Log}

/-- A run comes to a value and adds these diagnostics to the log. -/
structure Yields (r : Recorded Step ε α) (a : α) (log : Log) : Prop where
  result : r.result = .ok a
  log : r.log = log

theorem Yields.pure (a : α) : Yields (Pure.pure a : Recorded Step ε α) a [] :=
  ⟨rfl, rfl⟩

/-- What comes behind a run that yields a value adds its diagnostics, however it ends. -/
theorem Yields.log_bind (h : Yields r a log) : (r >>= f).log = log ++ (f a).log := by
  obtain ⟨steps, result⟩ := r
  obtain ⟨hresult, hlog⟩ := h
  cases hresult
  rw [← hlog]
  exact diagnosticsOf_append steps (f a).steps

/-- One run behind another: the second one's diagnostics come behind the first one's. -/
theorem Yields.bind (h : Yields r a log) (h' : Yields (f a) b log') :
    Yields (r >>= f) b (log ++ log') := by
  refine ⟨?_, by rw [h.log_bind, h'.log]⟩
  obtain ⟨steps, result⟩ := r
  obtain ⟨hresult, _⟩ := h
  cases hresult
  exact h'.result

/-- A step that adds no diagnostic. -/
theorem Yields.noted {s : Step} (hs : s.diagnostic? = none) :
    Yields (note s : Recorded Step ε Unit) () [] := by
  refine ⟨rfl, ?_⟩
  show List.filterMap Step.diagnostic? [s] = []
  rw [List.filterMap_cons_none hs, List.filterMap_nil]

/-- What comes behind a step that adds no diagnostic. -/
theorem Yields.quiet {s : Step} {f : Unit → Recorded Step ε β} (hs : s.diagnostic? = none)
    (h : Yields (f ()) b log) : Yields (note s >>= f) b log :=
  (Yields.noted hs).bind h

/-- The step that adds a diagnostic. -/
theorem Yields.reported (d : Diagnostic) :
    Yields (note (.reported d) : Recorded Step ε Unit) () [d] :=
  ⟨rfl, rfl⟩

/-- A run without steps that has come to a value. -/
theorem Yields.ofExcept {ε' : Type} (wrap : ε' → ε) {x : Except ε' α} (h : x = .ok a) :
    Yields (Recorded.ofExcept wrap x : Recorded Step ε α) a [] := by
  subst h
  exact ⟨rfl, rfl⟩

end Recorded

end WordLint
