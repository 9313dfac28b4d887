import AsmCheck.Text.Basic

/-!
# Case mappings as runs

A case mapping of single characters is a table of runs. A run takes every `step`-th code point of
a range and moves all of them by the same distance.
-/

namespace AsmCheck.Text

set_option autoImplicit false

structure CaseRun where
  first : Nat
  last : Nat
  step : Nat
  /-- What `first` is mapped to. -/
  target : Nat

namespace CaseRun

def covers (run : CaseRun) (n : Nat) : Bool :=
  run.first ≤ n && n ≤ run.last && (n - run.first) % run.step == 0

/-- The image of a character; one that no run covers stays as it is. -/
def map (table : List CaseRun) (c : Char) : Char :=
  match table.find? (·.covers c.toNat) with
  | some run => Char.ofNat (run.target + (c.toNat - run.first))
  | none => c

end CaseRun

end AsmCheck.Text
