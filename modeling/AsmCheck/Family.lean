import AsmCheck.Text.Blank
import AsmCheck.Text.LowerCase

/-!
# Instruction families

A family is what an instruction does. It has a display name and one or more mnemonics, and no two
families share a mnemonic. Families of one form take the same operands.
-/

namespace AsmCheck

set_option autoImplicit false

inductive Family where
  | nop
  | sleep
  | halt
  | skip
  | moveWord
  | swapWord
  | addWord
  | subtractWord
  | move
  | swizzle
  | add
  | addSaturate
  | subtract
  | subtractSaturate
  | equal
  | notEqual
  | carry
  | lessThan
  | greaterThan
  | lessOrEqual
  | greaterOrEqual
  | addOver
  | subtractOver
  | reverseSubtractOver
  | shiftLeft
  | shiftRight
  | arithmeticShiftRight
  | rotateLeft
  | rotateRight
  | bitwiseAnd
  | bitwiseOr
  | bitwiseXor
  | bitwiseNand
  | bitwiseNor
  | bitwiseXnor
  | bitwiseNotSource
  | bitwiseNotDest
  | bitwiseSourceAndNotDest
  | bitwiseNotSourceAndDest
  | bitwiseSourceOrNotDest
  | bitwiseNotSourceOrDest
  | bitwiseAll
  | bitwiseOne
  | bitwiseSwap
  | horizontalAdd
  | multiplySaturate
  | multiplyLow
  | multiplyHigh
  | divide
  | reciprocalDivide
  | set
  | jump
  | jumpEqual
  | jumpNotEqual
  deriving DecidableEq

/-- The shape of an instruction: which size and operands it takes. -/
inductive Form where
  | nop
  | halt
  | skip
  | sleep
  | move
  | wordSelect
  | math
  | shift
  | bitwise
  | special
  | swizzle
  | set
  | jump
  | conditionalJump
  deriving DecidableEq

namespace Family

def name : Family → String
  | .nop => "Nop"
  | .sleep => "Sleep"
  | .halt => "Halt"
  | .skip => "Skip"
  | .moveWord => "Move Word"
  | .swapWord => "Swap Word"
  | .addWord => "Add Word"
  | .subtractWord => "Subtract Word"
  | .move => "Move"
  | .swizzle => "Swizzle"
  | .add => "Add"
  | .addSaturate => "Add Saturate"
  | .subtract => "Subtract"
  | .subtractSaturate => "Subtract Saturate"
  | .equal => "Equal"
  | .notEqual => "Not Equal"
  | .carry => "Carry"
  | .lessThan => "Less Than"
  | .greaterThan => "Greater Than"
  | .lessOrEqual => "Less or Equal"
  | .greaterOrEqual => "Greater or Equal"
  | .addOver => "Add Over"
  | .subtractOver => "Subtract Over"
  | .reverseSubtractOver => "Reverse Subtract Over"
  | .shiftLeft => "Shift Left"
  | .shiftRight => "Shift Right"
  | .arithmeticShiftRight => "Arithmetic Shift Right"
  | .rotateLeft => "Rotate Left"
  | .rotateRight => "Rotate Right"
  | .bitwiseAnd => "And"
  | .bitwiseOr => "Or"
  | .bitwiseXor => "Xor"
  | .bitwiseNand => "Nand"
  | .bitwiseNor => "Nor"
  | .bitwiseXnor => "Xnor"
  | .bitwiseNotSource => "Not Src"
  | .bitwiseNotDest => "Not Dest"
  | .bitwiseSourceAndNotDest => "Src And Not Dest"
  | .bitwiseNotSourceAndDest => "Not Src And Dest"
  | .bitwiseSourceOrNotDest => "Src Or Not Dest"
  | .bitwiseNotSourceOrDest => "Not Src Or Dest"
  | .bitwiseAll => "All"
  | .bitwiseOne => "One"
  | .bitwiseSwap => "Swap"
  | .horizontalAdd => "Horizontal Add"
  | .multiplySaturate => "Multiply Saturate"
  | .multiplyLow => "Multiply Low"
  | .multiplyHigh => "Multiply High"
  | .divide => "Divide"
  | .reciprocalDivide => "Reciprocal Divide"
  | .set => "Set"
  | .jump => "Jump"
  | .jumpEqual => "Jump if Equal"
  | .jumpNotEqual => "Jump if Not Equal"

/-- The mnemonics of a family, in lower case and without a size. -/
def aliases : Family → List String
  | .nop => ["nop"]
  | .sleep => ["slp", "sleep"]
  | .halt => ["hlt", "halt"]
  | .skip => ["skip", "skip1", "skip2", "skip3", "skip4"]
  | .moveWord => ["wmo", "wmov", "wmove"]
  | .swapWord => ["wsw", "wswap"]
  | .addWord => ["wad", "wadd"]
  | .subtractWord => ["wsu", "wsub"]
  | .move => ["mov", "move"]
  | .swizzle => ["swi", "swizzle"]
  | .add => ["add"]
  | .addSaturate => ["adds"]
  | .subtract => ["sub"]
  | .subtractSaturate => ["subs"]
  | .equal => ["eq", "equ"]
  | .notEqual => ["ne", "neq"]
  | .carry => ["car", "cry", "carry"]
  | .lessThan => ["lt"]
  | .greaterThan => ["gt"]
  | .lessOrEqual => ["le", "lte"]
  | .greaterOrEqual => ["ge", "gte"]
  | .addOver => ["addo", "addover"]
  | .subtractOver => ["subo", "subover"]
  | .reverseSubtractOver => ["rsubo", "rsubover"]
  | .shiftLeft => ["lsl", "asl"]
  | .shiftRight => ["lsr"]
  | .arithmeticShiftRight => ["asr"]
  | .rotateLeft => ["rol"]
  | .rotateRight => ["ror"]
  | .bitwiseAnd => ["and"]
  | .bitwiseOr => ["or"]
  | .bitwiseXor => ["xor"]
  | .bitwiseNand => ["nand"]
  | .bitwiseNor => ["nor"]
  | .bitwiseXnor => ["xnor"]
  | .bitwiseNotSource => ["nsrc", "notsrc"]
  | .bitwiseNotDest => ["ndst", "notdst", "notdest"]
  | .bitwiseSourceAndNotDest => ["sand", "srcandnotdst"]
  | .bitwiseNotSourceAndDest => ["nsad", "notsrcanddst"]
  | .bitwiseSourceOrNotDest => ["sond", "srcornotdst"]
  | .bitwiseNotSourceOrDest => ["nsod", "notsrcordst"]
  | .bitwiseAll => ["all"]
  | .bitwiseOne => ["one"]
  | .bitwiseSwap => ["swap"]
  | .horizontalAdd => ["hadd"]
  | .multiplySaturate => ["mul", "mults", "multisat"]
  | .multiplyLow => ["mlo", "multl", "multlow"]
  | .multiplyHigh => ["mhi", "multh", "multhigh"]
  | .divide => ["div", "divide"]
  | .reciprocalDivide => ["rdiv", "rdivide"]
  | .set => ["set", "set1", "set2", "set3", "set4"]
  | .jump => ["jmp", "jump"]
  | .jumpEqual => ["je", "jeq", "jc", "jcp"]
  | .jumpNotEqual => ["jne", "jnc", "jcc"]

def form : Family → Form
  | .nop => .nop
  | .sleep => .sleep
  | .halt => .halt
  | .skip => .skip
  | .moveWord | .swapWord | .addWord | .subtractWord => .wordSelect
  | .move => .move
  | .swizzle => .swizzle
  | .add | .addSaturate | .subtract | .subtractSaturate | .equal | .notEqual | .carry
  | .lessThan | .greaterThan | .lessOrEqual | .greaterOrEqual | .addOver | .subtractOver
  | .reverseSubtractOver => .math
  | .shiftLeft | .shiftRight | .arithmeticShiftRight | .rotateLeft | .rotateRight => .shift
  | .bitwiseAnd | .bitwiseOr | .bitwiseXor | .bitwiseNand | .bitwiseNor | .bitwiseXnor
  | .bitwiseNotSource | .bitwiseNotDest | .bitwiseSourceAndNotDest
  | .bitwiseNotSourceAndDest | .bitwiseSourceOrNotDest | .bitwiseNotSourceOrDest
  | .bitwiseAll | .bitwiseOne | .bitwiseSwap => .bitwise
  | .horizontalAdd | .multiplySaturate | .multiplyLow | .multiplyHigh | .divide
  | .reciprocalDivide => .special
  | .set => .set
  | .jump => .jump
  | .jumpEqual | .jumpNotEqual => .conditionalJump

def all : List Family :=
  [.nop, .sleep, .halt, .skip, .moveWord, .swapWord, .addWord, .subtractWord, .move, .swizzle,
   .add, .addSaturate, .subtract, .subtractSaturate, .equal, .notEqual, .carry, .lessThan,
   .greaterThan, .lessOrEqual, .greaterOrEqual, .addOver, .subtractOver, .reverseSubtractOver,
   .shiftLeft, .shiftRight, .arithmeticShiftRight, .rotateLeft, .rotateRight, .bitwiseAnd,
   .bitwiseOr, .bitwiseXor, .bitwiseNand, .bitwiseNor, .bitwiseXnor, .bitwiseNotSource,
   .bitwiseNotDest, .bitwiseSourceAndNotDest, .bitwiseNotSourceAndDest, .bitwiseSourceOrNotDest,
   .bitwiseNotSourceOrDest, .bitwiseAll, .bitwiseOne, .bitwiseSwap, .horizontalAdd,
   .multiplySaturate, .multiplyLow, .multiplyHigh, .divide, .reciprocalDivide, .set, .jump,
   .jumpEqual, .jumpNotEqual]

/-- Bitwise operations of one operand. -/
def isUnary : Family → Bool
  | .bitwiseAll | .bitwiseOne | .bitwiseNotDest => true
  | _ => false

def ofName? (name : String) : Option Family := all.find? (·.name == name)

/-- The mnemonic of a token: its part in front of the first dot, in lower case. -/
def mnemonic (token : Text) : Text := Text.lower (Text.before '.' (Text.trim token))

/-- The family that a token names, in either case and with or without a size. -/
def ofToken? (token : Text) : Option Family :=
  let mnemonic := mnemonic token
  all.find? fun family => family.aliases.any fun name => name.toList == mnemonic

theorem mem_all (family : Family) : family ∈ all := by
  cases family <;> decide

end Family

end AsmCheck
