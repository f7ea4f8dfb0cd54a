import CpeMatch.Text.Basic

/-!
**Sets of code points given by runs.**

A property of characters that follows no formula is written as a table of runs.  This module says
what such a table means, both for a set of code points and for a map that shifts them.

Main definitions:

* `CpeMatch.Text.inRanges` — membership in a list of closed runs;
* `CpeMatch.Text.ShiftRun`, `CpeMatch.Text.shiftBy` — a map that shifts every `step`-th code point
  of a run by a fixed distance and leaves all others alone.
-/

set_option autoImplicit false

namespace CpeMatch.Text

/-- Whether the number of `c` lies in one of the closed runs of `table`. -/
def inRanges (table : List (Nat × Nat)) (c : CodePoint) : Bool :=
  table.any fun run => run.1 ≤ c.toNat && c.toNat ≤ run.2

/-- The code points `first, first + step, …, last`, each moved by `shift`. -/
structure ShiftRun where
  first : Nat
  last : Nat
  step : Nat
  shift : Int

/-- Whether `c` belongs to the run. -/
def ShiftRun.covers (run : ShiftRun) (c : CodePoint) : Bool :=
  run.first ≤ c.toNat && c.toNat ≤ run.last && (c.toNat - run.first) % run.step == 0

/-- The code point `c` moved by the first run of `table` that covers it. -/
def shiftBy (table : List ShiftRun) (c : CodePoint) : CodePoint :=
  match table.find? (·.covers c) with
  | some run => CodePoint.ofNat (Int.toNat (c.toNat + run.shift))
  | none => c

@[simp] theorem inRanges_nil (c : CodePoint) : inRanges [] c = false := rfl

@[simp] theorem shiftBy_nil (c : CodePoint) : shiftBy [] c = c := rfl

end CpeMatch.Text
