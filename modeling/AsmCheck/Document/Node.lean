import AsmCheck.Family
import AsmCheck.Statement

/-!
# Nodes

What a document holds: words of memory, words of code written as instructions or in hexadecimal,
and labels, which name the address of the next word of code.
-/

namespace AsmCheck

set_option autoImplicit false

structure Instruction where
  text : Text
  statement : Statement
  family : Family
  line : Int
  column : Int
  address : Int
  valid : Bool
  deriving DecidableEq

structure LabelDefinition where
  name : Text
  line : Int
  column : Int
  address : Int
  deriving DecidableEq

structure LiteralWord where
  value : Nat
  line : Int
  column : Int
  address : Int
  deriving DecidableEq

structure MemoryWord where
  value : Nat
  line : Int
  column : Int
  deriving DecidableEq

inductive Node where
  | instruction (line : Instruction)
  | label (definition : LabelDefinition)
  | literal (word : LiteralWord)
  | memory (word : MemoryWord)
  /-- Something in a list of nodes that plays no part in it. -/
  | foreign
  deriving DecidableEq

end AsmCheck
