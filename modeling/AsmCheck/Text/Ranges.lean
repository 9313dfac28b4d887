import AsmCheck.Text.Basic

/-!
# Classes of code points

A class is a table of closed ranges.
-/

namespace AsmCheck.Text

set_option autoImplicit false

def inRanges (table : List (Nat × Nat)) (c : Char) : Bool :=
  table.any fun r => r.1 ≤ c.toNat && c.toNat ≤ r.2

theorem inRanges_iff {table : List (Nat × Nat)} {c : Char} :
    inRanges table c = true ↔ ∃ r ∈ table, r.1 ≤ c.toNat ∧ c.toNat ≤ r.2 := by
  simp [inRanges]

end AsmCheck.Text
