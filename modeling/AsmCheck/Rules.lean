import AsmCheck.Family
import AsmCheck.Operand.Parts
import AsmCheck.Problem
import AsmCheck.Statement

/-!
# Rules

Each form of instruction has a rule. A rule names the first thing that is wrong with a statement,
and nothing if the statement is valid.
-/

namespace AsmCheck

set_option autoImplicit false

open Operand (Kind swizzle? key?)

namespace Rules

def sizes : List Text := [['.', 'b'], ['.', 'w']]

def sleepSizes : List Text := [['.', 'w'], ['.', 'h'], ['.', 'l']]

/-- The rule of forms that take no size. -/
def noSize (instructions : String) (s : Statement) : Option Diagnostic :=
  s.size?.map fun size => (Problem.sizeNotTaken instructions size.text).mark size

/-- The rule of forms with a byte or word size. -/
def commonSize (size? : Option Span) (instruction : Span) (required : Bool) : Option Diagnostic :=
  match size? with
  | none => Problem.sizeMissing.markIf required instruction
  | some size =>
    (Problem.sizeUnknown size.text).markIf (!sizes.contains (Text.lower size.text)) size

/-- The report of a wrong number of operands. -/
def wrongCount (instructions : String) (expected : Nat) (s : Statement) : Diagnostic :=
  (Problem.operandCount instructions expected s.operands.length).markRange s.operandRange

/-- A problem over all operands, if there are any. -/
def noOperands (problem : Problem) (s : Statement) : Option Diagnostic :=
  if s.operands.isEmpty then none else some (problem.markRange s.operandRange)

def isKind (kind : Kind) (op : Span) : Bool := Kind.ofText? op.text == some kind

def hasKind (op : Span) : Bool := (Kind.ofText? op.text).isSome

def isSource (op : Span) : Bool := (Kind.ofText? op.text).any Kind.isSource

def isTarget (op : Span) : Bool := (Kind.ofText? op.text).any Kind.isTarget

def isPointer (op : Span) : Bool := (Kind.ofText? op.text).any Kind.isPointer

def nop (s : Statement) : Option Diagnostic :=
  (noSize "Nop" s).or (noOperands (.operandsNotTaken "Nop" s.operands.length) s)

def halt (s : Statement) : Option Diagnostic :=
  (noSize "Halt" s).or (noOperands (.operandsNotTaken "Halt" s.operands.length) s)

def skip (s : Statement) : Option Diagnostic :=
  (s.size?.map Problem.skipSize.mark).or (noOperands .skipOperands s)

/-- The duration of a sleep comes from a register if there is a size and is a number otherwise. -/
def sleepDuration (s : Statement) (op : Span) : Option Diagnostic :=
  if s.size?.isSome then (Problem.sleepRegisterNeeded op.text).markIf (!isSource op) op
  else if isSource op then
    some (Problem.sleepSizeNeeded.markRange (s.instruction.stop, s.instruction.stop + 1))
  else (Problem.sleepNumberNeeded op.text).markIf (!isKind .immediate op) op

def sleep (s : Statement) : Option Diagnostic :=
  (s.size?.bind fun size =>
    Problem.sleepSize.markIf (!sleepSizes.contains (Text.lower size.text)) size).or <|
  match s.operands with
  | [op] => sleepDuration s op
  | ops => some ((Problem.sleepOperandCount ops.length).markRange s.operandRange)

/-- Selections of words by which memory can be addressed. -/
def pointerSwizzles : List Text := [['x'], ['x', 'y', 'z', 'w']]

/-- Selections of words that can be stored and loaded. -/
def sequentialSwizzles : List Text :=
  [['x'], ['x', 'y'], ['x', 'y', 'z'], ['x', 'y', 'z', 'w']]

/-- Whether an operand has a swizzle outside the given list. -/
def swizzledOutside (allowed : List Text) (op : Span) : Bool :=
  (swizzle? op.text).any (!allowed.contains ·)

/-- The swizzles of a store, a load or a copy. -/
def moveSwizzles (dst src : Span) : Option Problem :=
  if isPointer dst then
    if swizzledOutside pointerSwizzles dst then some .storePointerSwizzle
    else if swizzledOutside sequentialSwizzles src then some .storeSourceSwizzle
    else none
  else if isPointer src then
    if swizzledOutside pointerSwizzles src then some .loadPointerSwizzle
    else if swizzledOutside sequentialSwizzles dst then some .loadDestinationSwizzle
    else none
  else if swizzle? dst.text ≠ swizzle? src.text then some .moveSwizzlesDiffer
  else none

def moveOperands (dst src : Span) : Option Diagnostic :=
  ((Problem.moveDestination dst.text).markIf (!hasKind dst) dst).or <|
  ((Problem.moveSource src.text).markIf (!hasKind src) src).or <|
  ((Problem.moveImmediateDestination dst.text).markIf (isKind .immediate dst) dst).or <|
  ((Problem.moveImmediateSource src.text).markIf (isKind .immediate src) src).or <|
  (if isPointer dst && isPointer src then some Problem.moveTwoPointers
    else moveSwizzles dst src).map (·.markRange (dst.start, src.stop))

def move (s : Statement) : Option Diagnostic :=
  (noSize "Move" s).or <|
  match s.operands with
  | [dst, src] => moveOperands dst src
  | _ => some (wrongCount "Move" 2 s)

def wordSelectOperands (dst src : Span) : Option Diagnostic :=
  (Problem.wordSelectDestination.markIf (!isKind .register dst) dst).or <|
  (Problem.wordSelectSource.markIf (!isSource src) src).or <|
  (Problem.wordSelectDestinationSwizzle.markIf (swizzle? dst.text).isSome dst).or <|
  Problem.wordSelectSourceSwizzle.markIf ((swizzle? src.text).any fun words =>
    !(words.length == 1 && words.all Operand.isWordLetter)) src

def wordSelect (s : Statement) : Option Diagnostic :=
  (noSize "Word Select" s).or <|
  match s.operands with
  | [dst, src] => wordSelectOperands dst src
  | _ => some (wrongCount "Word Select" 2 s)

def mathOperands (dst lhs rhs : Span) : Option Diagnostic :=
  ((Problem.mathOperand .destination dst.text).markIf (!hasKind dst) dst).or <|
  ((Problem.mathOperand .left lhs.text).markIf (!hasKind lhs) lhs).or <|
  ((Problem.mathOperand .right rhs.text).markIf (!hasKind rhs) rhs).or <|
  ((Problem.mathDestination dst.text).markIf (!isKind .register dst) dst).or <|
  ((Problem.mathSource lhs.text).markIf (!isSource lhs) lhs).or <|
  ((Problem.mathSource rhs.text).markIf (!isSource rhs) rhs).or <|
  (Problem.mathSwizzle.markIf (swizzle? dst.text).isSome dst).or <|
  (Problem.mathSwizzle.markIf (swizzle? lhs.text).isSome lhs).or <|
  (Problem.mathSwizzle.markIf (swizzle? rhs.text).isSome rhs).or <|
  Problem.mathDestinationUnused.markIf
    (key? dst.text != key? lhs.text && key? dst.text != key? rhs.text) dst

/-- The destination of a calculation is also one of its inputs. -/
def math (s : Statement) : Option Diagnostic :=
  (commonSize s.size? s.instruction false).or <|
  match s.operands with
  | [dst, lhs, rhs] => mathOperands dst lhs rhs
  | _ => some (wrongCount "Math" 3 s)

def shiftOperands (dst src : Span) : Option Diagnostic :=
  ((Problem.shiftDestination dst.text).markIf (!hasKind dst) dst).or <|
  ((Problem.shiftSource src.text).markIf (!hasKind src) src).or <|
  (Problem.shiftDestinationKind.markIf (!isKind .register dst) dst).or <|
  Problem.shiftSourceKind.markIf (!isSource src && !isKind .immediate src) src

def shift (s : Statement) : Option Diagnostic :=
  (commonSize s.size? s.instruction true).or <|
  match s.operands with
  | [dst, src] => shiftOperands dst src
  | _ => some (wrongCount "Shift" 2 s)

/-- The number of operands is that of the family which the instruction itself names. -/
def bitwise (s : Statement) : Option Diagnostic :=
  (noSize "Bitwise" s).or <|
  if s.operands.isEmpty then some (Problem.bitwiseOperandMissing.markRange s.headRange)
  else if (Family.ofToken? s.instruction.text).any Family.isUnary then
    if s.operands.length = 1 then none
    else some ((Problem.unaryOperandCount s.operands.length).markRange s.operandRange)
  else if s.operands.length = 2 then none
  else some (wrongCount "Bitwise" 2 s)

def specialOperands (dst src : Span) : Option Diagnostic :=
  ((Problem.specialDestination dst.text).markIf (!isKind .register dst) dst).or <|
  ((Problem.specialSource src.text).markIf (!isSource src) src).or <|
  (Problem.specialDestinationSwizzle.markIf (swizzle? dst.text).isSome dst).or <|
  Problem.specialSourceSwizzle.markIf (swizzle? src.text).isSome src

def special (s : Statement) : Option Diagnostic :=
  (s.size?.map fun size => (Problem.specialSize size.text).mark size).or <|
  match s.operands with
  | [dst, src] => specialOperands dst src
  | _ => some (wrongCount "Special" 2 s)

def swizzleOperand (op : Span) : Option Diagnostic :=
  ((Problem.swizzleDestination (Kind.ofText? op.text)).markIf (!isKind .register op) op).or <|
  match swizzle? op.text with
  | none => some (Problem.swizzleMissing.mark op)
  | some words =>
    Problem.swizzleLength.markIf (!(words.length == 4 && words.all Operand.isWordLetter)) op

def swizzle (s : Statement) : Option Diagnostic :=
  (noSize "Swizzle" s).or <|
  match s.operands with
  | [op] => swizzleOperand op
  | _ => some (wrongCount "Swizzle" 1 s)

/-- The number of operands of a set instruction: a register and one to four values. -/
def setOperandCount (mnemonic : Text) : Nat :=
  if mnemonic = ['s', 'e', 't', '2'] then 3
  else if mnemonic = ['s', 'e', 't', '3'] then 4
  else if mnemonic = ['s', 'e', 't', '4'] then 5
  else 2

def setOperands : List Span → Option Diagnostic
  | [] => none
  | dst :: values =>
    (Problem.setDestination.markIf (!isKind .register dst) dst).or
      ((values.find? (!isTarget ·)).map Problem.setValue.mark)

def set (s : Statement) : Option Diagnostic :=
  let mnemonic := Family.mnemonic s.instruction.text
  let expected := setOperandCount mnemonic
  (noSize "Set" s).or <|
  if s.operands.length = expected then setOperands s.operands
  else some ((Problem.setOperandCount mnemonic expected s.operands.length).markRange s.operandRange)

/-- A problem with an operand that is to be a jump's destination. -/
def jumpTarget (unknown : Problem) (op : Span) : Option Diagnostic :=
  match Kind.ofText? op.text with
  | none => some (unknown.mark op)
  | some kind => (Problem.jumpTarget kind).markIf (!kind.isTarget) op

def jump (s : Statement) : Option Diagnostic :=
  (noSize "Jump" s).or <|
  match s.operands with
  | [op] => jumpTarget (.jumpOperand op.text) op
  | _ => some (wrongCount "Jump" 1 s)

def conditionalJumpOperands (src dst : Span) : Option Diagnostic :=
  match Kind.ofText? src.text with
  | none => some ((Problem.conditionOperand src.text).mark src)
  | some kind =>
    ((Problem.conditionTarget dst.text).markIf (!hasKind dst) dst).or <|
    ((Problem.conditionSource kind).markIf (!kind.isSource) src).or <|
    jumpTarget (.conditionTarget dst.text) dst

def conditionalJump (s : Statement) : Option Diagnostic :=
  (noSize "Jump" s).or <|
  match s.operands with
  | [src, dst] => conditionalJumpOperands src dst
  | _ => some (wrongCount "Conditional jump" 2 s)

end Rules

/-- What is wrong with a statement taken for an instruction of the given form. -/
def Form.check : Form → Statement → Option Diagnostic
  | .nop => Rules.nop
  | .halt => Rules.halt
  | .skip => Rules.skip
  | .sleep => Rules.sleep
  | .move => Rules.move
  | .wordSelect => Rules.wordSelect
  | .math => Rules.math
  | .shift => Rules.shift
  | .bitwise => Rules.bitwise
  | .special => Rules.special
  | .swizzle => Rules.swizzle
  | .set => Rules.set
  | .jump => Rules.jump
  | .conditionalJump => Rules.conditionalJump

def Family.check (family : Family) : Statement → Option Diagnostic := family.form.check

/-- What is wrong with a statement of a form that may be unknown. -/
def Statement.check (s : Statement) : Option Form → Option Diagnostic
  | some form => form.check s
  | none => some ((Problem.ruleMissing s.instruction.text).mark s.instruction)

/-- What is wrong with a line. A line without an instruction that is known has no verdict. -/
def checkLine (line : Text) : Option Diagnostic := do
  let s ← Statement.ofLine? line
  let family ← Family.ofToken? s.instruction.text
  family.check s

end AsmCheck
