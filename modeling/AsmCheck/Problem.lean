import AsmCheck.Diagnostic
import AsmCheck.Operand.Kind

/-!
# Problems

What can be wrong with a line, a memory image or the labels of a document, and how each problem is
worded. All problems are errors, except that an instruction without a rule is only noted.
-/

namespace AsmCheck

set_option autoImplicit false

/-- The place of an operand in a three-operand calculation. -/
inductive MathRole where
  | destination
  | left
  | right
  deriving DecidableEq

def MathRole.name : MathRole → String
  | .destination => "destination"
  | .left => "left-hand"
  | .right => "right-hand"

inductive Problem where
  | sizeNotTaken (instructions : String) (size : Text)
  | sizeMissing
  | sizeUnknown (size : Text)
  | operandCount (instructions : String) (expected found : Nat)
  | operandsNotTaken (instructions : String) (found : Nat)
  | skipSize
  | skipOperands
  | sleepSize
  | sleepOperandCount (found : Nat)
  | sleepRegisterNeeded (operand : Text)
  | sleepSizeNeeded
  | sleepNumberNeeded (operand : Text)
  | moveDestination (operand : Text)
  | moveSource (operand : Text)
  | moveImmediateDestination (operand : Text)
  | moveImmediateSource (operand : Text)
  | moveTwoPointers
  | storePointerSwizzle
  | storeSourceSwizzle
  | loadPointerSwizzle
  | loadDestinationSwizzle
  | moveSwizzlesDiffer
  | wordSelectDestination
  | wordSelectSource
  | wordSelectDestinationSwizzle
  | wordSelectSourceSwizzle
  | mathOperand (role : MathRole) (operand : Text)
  | mathDestination (operand : Text)
  | mathSource (operand : Text)
  | mathSwizzle
  | mathDestinationUnused
  | shiftDestination (operand : Text)
  | shiftSource (operand : Text)
  | shiftDestinationKind
  | shiftSourceKind
  | bitwiseOperandMissing
  | unaryOperandCount (found : Nat)
  | specialSize (size : Text)
  | specialDestination (operand : Text)
  | specialSource (operand : Text)
  | specialDestinationSwizzle
  | specialSourceSwizzle
  | swizzleDestination (kind? : Option Operand.Kind)
  | swizzleMissing
  | swizzleLength
  | setOperandCount (mnemonic : Text) (expected found : Nat)
  | setDestination
  | setValue
  | jumpOperand (operand : Text)
  | jumpTarget (kind : Operand.Kind)
  | conditionOperand (operand : Text)
  | conditionTarget (operand : Text)
  | conditionSource (kind : Operand.Kind)
  | ruleMissing (instruction : Text)
  | memoryCharacter (c : Char)
  | literalDigits (code : Text)
  | literalRange
  | labelName (code : Text)
  | unknownInstruction (token : Text)
  | labelRepeated (name : Text) (line : Int)
  | labelUndefined (operand : Text)
  deriving DecidableEq

namespace Problem

def severity : Problem → Severity
  | .ruleMissing _ => .information
  | _ => .error

def message : Problem → String
  | .sizeNotTaken instructions size =>
    s!"{instructions} instruction does not take a size modifier, found {String.ofList size}"
  | .sizeMissing => "Invalid size modifier. Expected .b or .w"
  | .sizeUnknown size => s!"Invalid size modifier {String.ofList size}. Expected .b or .w"
  | .operandCount instructions expected found =>
    let plural := if expected = 1 then "" else "s"
    s!"{instructions} instructions require {expected} operand{plural}, found {found}"
  | .operandsNotTaken instructions found => s!"{instructions} takes no operands, found {found}"
  | .skipSize => "Unexpected size specifier."
  | .skipOperands => "Skip does not take operands."
  | .sleepSize => "Invalid size, expected .w, .h, or .l"
  | .sleepOperandCount found => s!"Sleep takes 1 operand, found {found}"
  | .sleepRegisterNeeded operand =>
    s!"Sleep with a size requires a register, got {String.ofList operand}"
  | .sleepSizeNeeded => "Size required when using a register as a duration source."
  | .sleepNumberNeeded operand => s!"Expected valid number, got {String.ofList operand}"
  | .moveDestination operand =>
    s!"Invalid destination operand for move instruction: {String.ofList operand}"
  | .moveSource operand => s!"Invalid source operand for move instruction: {String.ofList operand}"
  | .moveImmediateDestination operand =>
    "Move instruction does not take an immediate value as a destination operand, found " ++
      String.ofList operand
  | .moveImmediateSource operand =>
    "Move instruction does not take an immediate value as a source operand, found " ++
      String.ofList operand
  | .moveTwoPointers => "Move instruction can not take two pointer operands."
  | .storePointerSwizzle => "Store swizzle must be x or xyzw."
  | .storeSourceSwizzle => "Store swizzle must be a sequential word swizzle starting at X."
  | .loadPointerSwizzle => "Load swizzle must be x or xyzw."
  | .loadDestinationSwizzle => "Load swizzle must be a sequential word swizzle starting at X."
  | .moveSwizzlesDiffer => "Moves with swizzled registers must have the same swizzle."
  | .wordSelectDestination => "Word Select destination must be a register."
  | .wordSelectSource => "Word Select source must be a register with a single word swizzle."
  | .wordSelectDestinationSwizzle => "Word Select instruction destinations cannot be swizzled."
  | .wordSelectSourceSwizzle =>
    "Word Select instruction source swizzle must be exactly one word."
  | .mathOperand role operand =>
    s!"Invalid {role.name} operand for math instruction: {String.ofList operand}"
  | .mathDestination operand =>
    s!"Math destination must be a writeable register, found {String.ofList operand}"
  | .mathSource operand =>
    s!"Math operands must be registers or constants, found {String.ofList operand}"
  | .mathSwizzle => "Math operands cannot be swizzled."
  | .mathDestinationUnused => "Math destination must also be included in the calculation."
  | .shiftDestination operand =>
    s!"Invalid destination operand for shift instruction: {String.ofList operand}"
  | .shiftSource operand =>
    s!"Invalid source operand for shift instruction: {String.ofList operand}"
  | .shiftDestinationKind => "Shift instruction destination must be a register."
  | .shiftSourceKind => "Shift instruction source must be a register or immediate value."
  | .bitwiseOperandMissing => "Bitwise instructions require at least 1 operand, found 0"
  | .unaryOperandCount found => s!"Unary bitwise instructions require 1 operand, found {found}"
  | .specialSize size => s!"Special operations do not take a size, found: {String.ofList size}"
  | .specialDestination operand =>
    s!"Destination must be a writeable register, found {String.ofList operand}"
  | .specialSource operand => s!"Source must be a register, found {String.ofList operand}"
  | .specialDestinationSwizzle => "Special operation destinations cannot be swizzled."
  | .specialSourceSwizzle => "Special operation sources cannot be swizzled."
  | .swizzleDestination kind? =>
    let found := match kind? with
      | some kind => kind.name
      | none => "an invalid operand"
    s!"Swizzle destination must be a writeable register, found {found}"
  | .swizzleMissing => "Missing swizzle."
  | .swizzleLength => "Swizzle destination must be a four-word swizzle."
  | .setOperandCount mnemonic expected found =>
    s!"Set instruction \"{String.ofList mnemonic}\" requires {expected} operands, found {found}"
  | .setDestination =>
    "Set instruction only accepts a writeable register as the first operand."
  | .setValue => "Set instructions only accept labels or immediate values as operands."
  | .jumpOperand operand => s!"Invalid operand: {String.ofList operand}"
  | .jumpTarget kind => s!"Jump destination must be a label or immediate, found {kind.name}"
  | .conditionOperand operand =>
    s!"Invalid source operand: {String.ofList operand} - Expected a register."
  | .conditionTarget operand =>
    s!"Invalid jump destination: {String.ofList operand} - Expected a label or immediate."
  | .conditionSource kind =>
    s!"Conditional jump source must be a register or constant, found {kind.name}"
  | .ruleMissing instruction =>
    s!"Parser not implemented for instruction: {String.ofList instruction}"
  | .memoryCharacter c => s!"Unexpected character \"{c}\" in memory section."
  | .literalDigits code =>
    s!"Raw hex instructions must be valid hex numbers but found: {String.ofList code}"
  | .literalRange => "Raw hex instructions must be between 0x0000 and 0xFFFF."
  | .labelName code => s!"Labels must be valid identifiers but found: {String.ofList code}"
  | .unknownInstruction token =>
    s!"Instruction \"{String.ofList token}\" is not a valid instruction."
  | .labelRepeated name line => s!"Label \"{String.ofList name}\" is already defined at {line}"
  | .labelUndefined operand => s!"Label \"{String.ofList operand}\" is not defined."

/-- The diagnostic of a problem over a range of columns. -/
def markRange (problem : Problem) (range : Int × Int) : Diagnostic :=
  { severity := problem.severity, message := problem.message, start := range.1, stop := range.2 }

/-- The diagnostic of a problem over a span. -/
def mark (problem : Problem) (span : Span) : Diagnostic := problem.markRange (span.start, span.stop)

/-- The diagnostic of a problem on a span, if a condition holds. -/
def markIf (problem : Problem) (condition : Bool) (span : Span) : Option Diagnostic :=
  if condition then some (problem.mark span) else none

end Problem

end AsmCheck
