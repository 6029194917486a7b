/-!
# Sets of characters as runs

A property of characters is a list of runs: where each starts, how many members it has and how
far apart they are. A mapping adds to each run the image of its first member; the others keep their distance.
-/

namespace Runbook.Text

/-- A start, a count and a stride. -/
abbrev Run := Nat × Nat × Nat

/-- Does a run hold the code point `n`? -/
def Run.holds (run : Run) (n : Nat) : Bool :=
  run.1 ≤ n && n ≤ run.1 + (run.2.1 - 1) * run.2.2 && (n - run.1) % run.2.2 == 0

/-- Does one of the runs hold the character? -/
def inRuns (runs : List Run) (c : Char) : Bool :=
  runs.any fun run => run.holds c.toNat

/-- A start, a count, a stride and the image of the start. -/
abbrev Shift := Nat × Nat × Nat × Nat

/-- Does the run of a shift hold the code point `n`? -/
def Shift.holds (shift : Shift) (n : Nat) : Bool :=
  Run.holds (shift.1, shift.2.1, shift.2.2.1) n

/-- The image of a code point that a shift holds. -/
def Shift.image (shift : Shift) (n : Nat) : Nat := shift.2.2.2 + (n - shift.1)

/-- The image of a character; where no run holds it, the character itself. -/
def shifted (shifts : List Shift) (c : Char) : Char :=
  match shifts.find? fun shift => shift.holds c.toNat with
  | some shift => Char.ofNat (shift.image c.toNat)
  | none => c

end Runbook.Text
