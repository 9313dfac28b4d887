import AsmCheck.InvalidInput
import AsmCheck.Text.Blank
import AsmCheck.Text.LowerCase

/-!
# Registers

Eight general registers, eight constant registers and the program counter. A register is written
with two characters, which determine it.
-/

namespace AsmCheck

set_option autoImplicit false

inductive Register where
  | general (index : Fin 8)
  | constant (index : Fin 8)
  | counter
  deriving DecidableEq

namespace Register

def index? : Char → Option (Fin 8)
  | '0' => some 0
  | '1' => some 1
  | '2' => some 2
  | '3' => some 3
  | '4' => some 4
  | '5' => some 5
  | '6' => some 6
  | '7' => some 7
  | _ => none

/-- The register that two characters write. -/
def ofPair? (bank index : Char) : Option Register :=
  if bank = 'r' then
    if index = 'i' then some .counter else (index? index).map .general
  else if bank = 'c' then (index? index).map .constant
  else none

def ofName? : Text → Option Register
  | [bank, index] => ofPair? bank index
  | _ => none

/-- The register at the head of a text, and the text after it. -/
def leading? : Text → Option (Register × Text)
  | bank :: index :: rest => (ofPair? bank index).map fun register => (register, rest)
  | _ => none

def indexChar (index : Fin 8) : Char := Nat.digitChar index

def name : Register → Text
  | .general index => ['r', indexChar index]
  | .constant index => ['c', indexChar index]
  | .counter => ['r', 'i']

def longName : Register → String
  | .general index => s!"Register R{index.val}"
  | .constant index => s!"Constant C{index.val}"
  | .counter => "Program Counter (Ri)"

/-- Constant registers are read-only. -/
def isWritable : Register → Bool
  | .constant _ => false
  | _ => true

/-- The long name of a register written in either case, with or without blanks around it. -/
def describe (name : Text) : Except InvalidInput String :=
  match ofName? (Text.lower (Text.trim name)) with
  | some register => .ok register.longName
  | none => .error (.notRegister name)

theorem ofName?_name (register : Register) : ofName? register.name = some register := by
  cases register with
  | counter => rfl
  | general index => revert index; decide
  | constant index => revert index; decide

end Register

end AsmCheck
