import AsmCheck.Numeral
import AsmCheck.Operand.Register

/-!
# Kinds of operands

The kind of an operand is read off the shape of its text. Only a constant register without a
selector, such as `c0`, has two shapes at once: it is a hexadecimal numeral as well, and the
constant comes first. One final line feed is not part of the operand.
-/

namespace AsmCheck.Operand

set_option autoImplicit false

inductive Kind where
  | register
  | constant
  | immediate
  | pointer
  | pointerIncrement
  | label
  deriving DecidableEq

/-- One of the four words of a register. -/
def isWordLetter (c : Char) : Bool := c == 'x' || c == 'y' || c == 'z' || c == 'w'

/-- Whether a text selects words of a register: a dot and at most four letters. -/
def isSelection (least : Nat) : Text → Bool
  | '.' :: letters => letters.all isWordLetter && least ≤ letters.length && letters.length ≤ 4
  | _ => false

/-- Whether a text is a register with an optional selection of at least `least` letters. -/
def isRegisterText (allowed : Register → Bool) (least : Nat) (t : Text) : Bool :=
  match Register.leading? t with
  | some (register, rest) => allowed register && (rest.isEmpty || isSelection least rest)
  | none => false

/-- Whether a text is a register between an opening bracket and the given closing. -/
def isBracketed (closing : Text) (t : Text) : Bool :=
  (Text.enclosed? ['['] closing t).any (isRegisterText (fun _ => true) 1)

def isLabelChar (c : Char) : Bool := c.isAlphanum || c == '_'

/-- Whether a text can name a label. -/
def isLabelName (t : Text) : Bool := !t.isEmpty && t.all isLabelChar

def isImmediateText : Text → Bool
  | '$' :: digits => Numeral.isHex digits
  | digits => Numeral.isHex digits

def isLabelText : Text → Bool
  | ':' :: name => isLabelName name
  | _ => false

namespace Kind

def name : Kind → String
  | .register => "Register"
  | .constant => "Constant"
  | .immediate => "Immediate"
  | .pointer => "Pointer"
  | .pointerIncrement => "Pointer Increment"
  | .label => "Label"

/-- Whether a text without a final line feed has the shape of a kind. -/
def hasShape : Kind → Text → Bool
  | .register => isRegisterText Register.isWritable 0
  | .constant => isRegisterText (!Register.isWritable ·) 0
  | .immediate => isImmediateText
  | .pointer => isBracketed [']']
  | .pointerIncrement => isBracketed ['+', ']']
  | .label => isLabelText

/-- The order in which shapes are tried. -/
def precedence : List Kind :=
  [.pointerIncrement, .pointer, .register, .constant, .immediate, .label]

def ofText? (t : Text) : Option Kind :=
  precedence.find? fun kind => kind.hasShape (Text.dropFinalNewline t)

def isPointer : Kind → Bool
  | .pointer | .pointerIncrement => true
  | _ => false

/-- Registers and constants: what an operation can read. -/
def isSource : Kind → Bool
  | .register | .constant => true
  | _ => false

/-- Labels and immediates: what a jump can go to. -/
def isTarget : Kind → Bool
  | .label | .immediate => true
  | _ => false

end Kind

end AsmCheck.Operand
