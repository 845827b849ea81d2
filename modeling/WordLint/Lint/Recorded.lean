/-!
# Recorded runs

A run takes steps and then yields a value or stops at an error. All its steps are kept in order, those
before an error too.
-/

namespace WordLint

/-- A run: its steps, and what it came to. -/
structure Recorded (σ ε α : Type) where
  steps : List σ
  result : Except ε α

namespace Recorded

variable {σ ε α β : Type}

/-- A run without steps. -/
def done (a : α) : Recorded σ ε α := ⟨[], .ok a⟩

/-- A run that stops at once. -/
def fail (e : ε) : Recorded σ ε α := ⟨[], .error e⟩

/-- A run of one step. -/
def note (s : σ) : Recorded σ ε Unit := ⟨[s], .ok ()⟩

/-- A run without steps that yields what has been computed. -/
def ofExcept {ε' : Type} (wrap : ε' → ε) : Except ε' α → Recorded σ ε α
  | .ok a => done a
  | .error e => fail (wrap e)

/-- One run after another, which depends on what the first one yields. -/
def andThen (r : Recorded σ ε α) (f : α → Recorded σ ε β) : Recorded σ ε β :=
  match r.result with
  | .ok a => ⟨r.steps ++ (f a).steps, (f a).result⟩
  | .error e => ⟨r.steps, .error e⟩

/-- The same run with its error put into other words. -/
def mapError {ε' : Type} (f : ε → ε') (r : Recorded σ ε α) : Recorded σ ε' α :=
  ⟨r.steps, r.result.mapError f⟩

instance : Monad (Recorded σ ε) where
  pure := done
  bind := andThen

end Recorded

end WordLint
