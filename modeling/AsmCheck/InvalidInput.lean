import AsmCheck.Text.Basic

/-!
# Refused inputs

The reasons for which a number, an immediate or a register name is refused.
-/

namespace AsmCheck

set_option autoImplicit false

inductive InvalidInput where
  | widthNotPositive
  | notImmediate (token : Text)
  | notRegister (name : Text)
  deriving DecidableEq

def InvalidInput.message : InvalidInput → String
  | .widthNotPositive => "n debe ser positivo"
  | .notImmediate token => s!"Inmediato inválido: {String.ofList token}"
  | .notRegister name => s!"Registro inválido: {String.ofList name}"

end AsmCheck
