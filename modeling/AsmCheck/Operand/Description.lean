import AsmCheck.Immediate
import AsmCheck.Operand.Parts

/-!
# Descriptions of operands

The sentence shown for an operand. An operand without a kind has none.
-/

namespace AsmCheck.Operand

set_option autoImplicit false

/-- An absent text is shown as `None`. -/
def shown : Option Text → String
  | some t => String.ofList t
  | none => "None"

def describeWords : Option Text → String
  | none => ""
  | some words =>
    let plural := if words.length > 1 then "s" else ""
    s!" word{plural} `{String.ofList words}`"

/-- The description of a text taken for an operand of the given kind. -/
def describeAs (kind : Kind) (t : Text) : Except InvalidInput String :=
  let parts := registerParts? t
  let register := shown (parts.map (·.1.name))
  let words := describeWords (parts.bind (·.2))
  match kind with
  | .register => .ok s!"General Purpose Register `{register}`{words}"
  | .constant => .ok s!"Constant Register `{register}`{words}"
  | .pointer => .ok s!"Memory at address of `{register}`"
  | .pointerIncrement =>
    .ok s!"Memory at address of `{register}` which is incremented upon each read."
  | .label => .ok s!"Value of Label `{String.ofList t}`"
  | .immediate =>
    let digits := Text.lower t
    (Immediate.parse digits).map fun value =>
      s!"Immediate value `{String.ofList digits}` ({value})"

def describe (t : Text) : Except InvalidInput (Option String) :=
  match Kind.ofText? t with
  | some kind => (describeAs kind t).map some
  | none => .ok none

end AsmCheck.Operand
