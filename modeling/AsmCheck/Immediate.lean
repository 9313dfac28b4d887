import AsmCheck.InvalidInput
import AsmCheck.Numeral
import AsmCheck.Text.Blank

/-!
# Immediate values

An immediate is a numeral. After a dollar sign it is hexadecimal; without one it is decimal if its
digits allow it and hexadecimal otherwise. Blanks around it do not count.
-/

namespace AsmCheck.Immediate

set_option autoImplicit false

/-- The value of a numeral that has no blanks around it. -/
def value? : Text → Option Nat
  | '$' :: digits => if Numeral.isHex digits then some (Numeral.read 16 digits) else none
  | digits =>
    if Numeral.isDecimal digits then some (Numeral.read 10 digits)
    else if Numeral.isHex digits then some (Numeral.read 16 digits)
    else none

def parse (token : Text) : Except InvalidInput Nat :=
  match value? (Text.trim token) with
  | some value => .ok value
  | none => .error (.notImmediate token)

end AsmCheck.Immediate
