import WordLint.Diagnostic.Log

/-!
# Logs over time

A journal is a log in use: diagnostics are added to it, snapshots of it are kept under names, and it can
be put back to one of them.

The items of the log and of each snapshot lie in cells. A diagnostic is added in place, in the cell of the
log. A snapshot is a copy in a cell of its own, and so is the log when it is put back to one.
-/

namespace WordLint

/-- A log in use, with the snapshots taken so far. -/
structure Journal where
  /-- What lies in the cells. -/
  cells : List Log
  /-- The cell of the log. -/
  current : Nat
  /-- The cells of the snapshots, the latest one first. -/
  snapshots : List (String × Nat)
deriving Repr, DecidableEq

namespace Journal

/-- Nothing has been reported. -/
def empty : Journal := ⟨[[]], 0, []⟩

/-- The items in a cell. -/
def items (j : Journal) (cell : Nat) : Log :=
  (j.cells[cell]?).getD []

/-- The log. -/
def log (j : Journal) : Log :=
  j.items j.current

/-- Add a diagnostic. -/
def report (j : Journal) (d : Diagnostic) : Journal :=
  { j with cells := j.cells.modify j.current (Log.add · d) }

/-- Keep a snapshot of the log under a name. -/
def freeze (j : Journal) (name : String) : Journal :=
  { j with cells := j.cells ++ [j.log], snapshots := (name, j.cells.length) :: j.snapshots }

/-- The snapshot with this name that was taken last. -/
def snapshot? (j : Journal) (name : String) : Option Log :=
  (j.snapshots.lookup name).map j.items

/-- Put the log back to a snapshot. -/
def thaw (j : Journal) (name : String) : Journal :=
  match j.snapshot? name with
  | some log => { j with cells := j.cells ++ [log], current := j.cells.length }
  | none => j

end Journal

end WordLint
