import AsmCheck.Family

/-!
# Groups of families

The families listed by what they do. Every family belongs to one group, and the families of a group
are those of a form.
-/

namespace AsmCheck

set_option autoImplicit false

namespace Family

def wordSelects : List Family := [.moveWord, .swapWord, .addWord, .subtractWord]

def mathOperations : List Family :=
  [.add, .addSaturate, .subtract, .subtractSaturate, .equal, .notEqual, .carry, .lessThan,
   .greaterThan, .lessOrEqual, .greaterOrEqual, .addOver, .subtractOver, .reverseSubtractOver]

def shifts : List Family :=
  [.shiftLeft, .shiftRight, .arithmeticShiftRight, .rotateLeft, .rotateRight]

/-- The bitwise operations of one operand. -/
def unaryBitwise : List Family := [.bitwiseAll, .bitwiseOne, .bitwiseNotDest]

/-- The bitwise operations of two operands. -/
def binaryBitwise : List Family :=
  [.bitwiseAnd, .bitwiseOr, .bitwiseXor, .bitwiseNand, .bitwiseNor, .bitwiseXnor,
   .bitwiseNotSource, .bitwiseSourceAndNotDest, .bitwiseNotSourceAndDest,
   .bitwiseSourceOrNotDest, .bitwiseNotSourceOrDest, .bitwiseSwap]

def bitwise : List Family := unaryBitwise ++ binaryBitwise

def specials : List Family :=
  [.horizontalAdd, .multiplySaturate, .multiplyLow, .multiplyHigh, .divide, .reciprocalDivide]

def conditionalJumps : List Family := [.jumpEqual, .jumpNotEqual]

end Family

def Form.families : Form → List Family
  | .nop => [.nop]
  | .halt => [.halt]
  | .skip => [.skip]
  | .sleep => [.sleep]
  | .move => [.move]
  | .wordSelect => Family.wordSelects
  | .math => Family.mathOperations
  | .shift => Family.shifts
  | .bitwise => Family.bitwise
  | .special => Family.specials
  | .swizzle => [.swizzle]
  | .set => [.set]
  | .jump => [.jump]
  | .conditionalJump => Family.conditionalJumps

theorem Family.form_eq_iff (family : Family) (form : Form) :
    family.form = form ↔ family ∈ form.families := by
  constructor
  · rintro rfl
    cases family <;> decide
  · have hforms : ∀ member ∈ form.families, member.form = form := by
      cases form <;> decide
    exact hforms family

theorem Family.isUnary_iff (family : Family) : family.isUnary = true ↔ family ∈ unaryBitwise := by
  cases family <;> decide

end AsmCheck
