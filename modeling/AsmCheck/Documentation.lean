import AsmCheck.Documentation.Page
import AsmCheck.Rules
import AsmCheck.Text.Digit

/-!
# Documentation

Every family has a page that is made from a statement. Making it can fail on a statement that the
rule of the family refuses, so pages are shown for valid statements only. Operands are documented
by their descriptions.
-/

namespace AsmCheck.Documentation

set_option autoImplicit false

def code (op : Span) : String := s!"`{String.ofList op.text}`"

def sizeNote : Option Span → String
  | none => ""
  | some size =>
    let lowered := Text.lower size.text
    let name :=
      if lowered = ['.', 'b'] then "byte"
      else if lowered = ['.', 'w'] then "word"
      else String.ofList size.text
    s!" as a {name} operation"

/-- The part of a register that a sized sleep reads. -/
def sleepPart? (size : Text) : Option String :=
  if size = ['.', 'w'] then some "first word"
  else if size = ['.', 'h'] then some "high byte of the first word"
  else if size = ['.', 'l'] then some "low byte of the first word"
  else none

/-- A page with the parts that two operands play. -/
def pageOfPair (family : Family) (body : String) (first second : String × Span) :
    Except PageFault Page := do
  let one ← Role.ofOperand first.1 first.2
  let two ← Role.ofOperand second.1 second.2
  return { title := family.name, body := body, roles := [one, two] }

def nop (family : Family) : Page :=
  { title := family.name
    body := "Do nothing for one cycle."
    reference? := some (.ofFamily "system" family) }

def halt (family : Family) : Page :=
  { title := family.name
    body := "Halt the current core."
    reference? := some (.ofFamily "system" family) }

/-- A skip is titled by the last digit of its mnemonic, or by 1. -/
def skip (family : Family) (s : Statement) : Except PageFault Page :=
  let mnemonic := Family.mnemonic s.instruction.text
  match mnemonic.getLast? with
  | none => .error .mnemonicMissing
  | some c =>
    let variant := if Text.isDigit c then c else '1'
    .ok
      { title := s!"{family.name}{variant}"
        body := s!"Skip instruction `{String.ofList mnemonic}`."
        reference? := some (.ofFamily "system" family) }

def sleep (family : Family) (s : Statement) : Except PageFault Page :=
  match s.operands, s.size? with
  | [], _ => .error .operandMissing
  | op :: _, none => .ok { title := family.name, body := s!"Sleep for {code op} ticks." }
  | op :: _, some size =>
    match sleepPart? (Text.lower size.text) with
    | none => .error .sizeUnknown
    | some part => .ok
      { title := family.name
        body := s!"Sleep for the number of ticks stored in {part} of the {code op} register." }

def move (family : Family) (s : Statement) : Except PageFault Page :=
  match s.operands with
  | [dst, src] =>
    let body :=
      if Rules.isPointer dst then s!"Store {code src} into memory at {code dst}."
      else if Rules.isPointer src then s!"Load {code dst} from memory at {code src}."
      else s!"Copy {code src} into {code dst}."
    pageOfPair family body ("Destination", dst) ("Source", src)
  | _ => .error .operandCount

def wordSelect (family : Family) (s : Statement) : Except PageFault Page :=
  match s.operands with
  | [dst, src] =>
    let body :=
      s!"Performs the word select operation \"{family.name}\" from {code src} into {code dst}."
    pageOfPair family body ("Destination", dst) ("Source", src)
  | _ => .error .operandCount

def math (family : Family) (s : Statement) : Except PageFault Page :=
  match s.operands with
  | [dst, lhs, rhs] => .ok
    { title := family.name
      body := s!"Performs \"{family.name}\" on {code lhs} and {code rhs}{sizeNote s.size?}, " ++
        s!"storing the result in {code dst}."
      reference? := some (.ofFamily "math" family) }
  | _ => .error .operandCount

def shift (family : Family) (s : Statement) : Except PageFault Page :=
  match s.operands with
  | [dst, src] =>
    let body := s!"Performs \"{family.name}\" on {code dst} by {code src}{sizeNote s.size?}."
    pageOfPair family body ("Destination", dst) ("Amount", src)
  | _ => .error .operandCount

def bitwise (family : Family) : Page :=
  let arity := if family.isUnary then "unary " else ""
  { title := family.name
    body := s!"Performs the {arity}bitwise operation \"{family.name}\"."
    reference? := some (.ofFamily "bitwise" family) }

def special (family : Family) (s : Statement) : Except PageFault Page :=
  match s.operands with
  | [dst, src] =>
    let body := s!"Performs the special operation \"{family.name}\" on {code dst} with {code src}."
    pageOfPair family body ("Destination", dst) ("Source", src)
  | _ => .error .operandCount

def swizzle (family : Family) (s : Statement) : Except PageFault Page :=
  match s.operands with
  | [] => .error .operandMissing
  | op :: _ =>
    match Operand.registerParts? op.text with
    | none => .error .registerMissing
    | some (register, words) => .ok
      { title := family.name
        body := s!"Rearranges the words of {register.longName} into the order " ++
          s!"`{Operand.shown words}`." }

def set (family : Family) (s : Statement) : Except PageFault Page :=
  match s.operands with
  | [] => .error .operandMissing
  | op :: values =>
    match Operand.registerParts? op.text with
    | none => .error .registerMissing
    | some (register, _) =>
      let plural := if values.length > 1 then "s" else ""
      let list := ", ".intercalate (values.map code)
      .ok
        { title := family.name
          body := s!"Sets {values.length} word{plural} of {register.longName} to {list}." }

def jump (family : Family) (s : Statement) : Except PageFault Page :=
  match s.operands with
  | [] => .error .operandMissing
  | op :: _ => .ok { title := family.name, body := s!"Jump to {code op}." }

def conditionalJump (family : Family) (s : Statement) : Except PageFault Page :=
  match s.operands with
  | [src, dst] =>
    let body := s!"Jump to {code dst} depending on the comparison of {code src}."
    pageOfPair family body ("Source", src) ("Destination", dst)
  | _ => .error .operandCount

/-- What makes the pages of a family: the family alone, or a statement as well. -/
inductive Generator where
  | ofFamily (make : Family → Page)
  | ofStatement (make : Family → Statement → Except PageFault Page)

def generator : Family → Generator
  | .nop => .ofFamily nop
  | .halt => .ofFamily halt
  | .skip => .ofStatement skip
  | .sleep => .ofStatement sleep
  | .move => .ofStatement move
  | .swizzle => .ofStatement swizzle
  | .set => .ofStatement set
  | .jump => .ofStatement jump
  | .moveWord | .swapWord | .addWord | .subtractWord => .ofStatement wordSelect
  | .add | .addSaturate | .subtract | .subtractSaturate | .equal | .notEqual | .carry
  | .lessThan | .greaterThan | .lessOrEqual | .greaterOrEqual | .addOver | .subtractOver
  | .reverseSubtractOver => .ofStatement math
  | .shiftLeft | .shiftRight | .arithmeticShiftRight | .rotateLeft | .rotateRight =>
    .ofStatement shift
  | .bitwiseAnd | .bitwiseOr | .bitwiseXor | .bitwiseNand | .bitwiseNor | .bitwiseXnor
  | .bitwiseNotSource | .bitwiseNotDest | .bitwiseSourceAndNotDest
  | .bitwiseNotSourceAndDest | .bitwiseSourceOrNotDest | .bitwiseNotSourceOrDest
  | .bitwiseAll | .bitwiseOne | .bitwiseSwap => .ofFamily bitwise
  | .horizontalAdd | .multiplySaturate | .multiplyLow | .multiplyHigh | .divide
  | .reciprocalDivide => .ofStatement special
  | .jumpEqual | .jumpNotEqual => .ofStatement conditionalJump

/-- A page where there may be no statement. Only pages that do not speak of the statement can be
made then. -/
def Generator.run : Generator → Family → Option Statement → Except PageFault Page
  | .ofFamily make, family, _ => .ok (make family)
  | .ofStatement make, family, some s => make family s
  | .ofStatement _, _, none => .error .statementMissing

def page (family : Family) (statement? : Option Statement) : Except PageFault Page :=
  (generator family).run family statement?

/-- Makes the page of a family out of a statement, valid or not. -/
def pageOf (family : Family) (s : Statement) : Except PageFault Page := page family (some s)

/-- The page of a statement, if the statement is valid for the family. -/
def validPage (family : Family) (s : Statement) : Except PageFault (Option Page) :=
  match family.check s with
  | some _ => .ok none
  | none => (pageOf family s).map some

/-- A piece of documentation and the part of the line that it is about. -/
structure Tip where
  markdown : String
  span : Span
  deriving DecidableEq

def instructionTip (s : Statement) : Except PageFault (Option Tip) :=
  match Family.ofToken? s.instruction.text with
  | none => .ok none
  | some family => (validPage family s).map (·.map fun page => ⟨page.render, s.instruction⟩)

def operandTip (op : Span) : Except PageFault (Option Tip) :=
  match Operand.describe op.text with
  | .ok description? => .ok (description?.map fun description => ⟨description, op⟩)
  | .error cause => .error (.operandInvalid cause)

/-- The tip for the part of a statement at a column. A size has none. -/
def statementTip (s : Statement) (column : Int) : Except PageFault (Option Tip) :=
  if s.instruction.covers column then instructionTip s
  else if s.size?.any (·.covers column) then .ok none
  else match s.operands.find? (·.covers column) with
    | some op => operandTip op
    | none => .ok none

/-- The tip for the part of a line at a column. -/
def tip (line : Text) (column : Int) : Except PageFault (Option Tip) :=
  match Statement.ofLine? line with
  | some s => statementTip s column
  | none => .ok none

end AsmCheck.Documentation
