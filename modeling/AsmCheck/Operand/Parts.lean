import AsmCheck.Operand.Kind
import AsmCheck.Text.WordChar

/-!
# Parts of an operand

An operand is taken apart in two ways: into the first word of its text with what follows a dot,
and into the first register that occurs in it with its selection of words.
-/

namespace AsmCheck.Operand

set_option autoImplicit false

/-- A text, unless it is empty. -/
def nonEmpty? (t : Text) : Option Text := if t.isEmpty then none else some t

/-- The first word of a text, and the word after a dot that follows it directly. -/
def wordParts? (t : Text) : Option (Text × Option Text) :=
  let start := t.dropWhile (!Text.isWordChar ·)
  (nonEmpty? (start.takeWhile Text.isWordChar)).map fun key =>
    (key, match start.dropWhile Text.isWordChar with
      | '.' :: rest => nonEmpty? (rest.takeWhile Text.isWordChar)
      | _ => none)

def key? (t : Text) : Option Text := (wordParts? t).map (·.1)

def swizzle? (t : Text) : Option Text := (wordParts? t).bind (·.2)

/-- The word letters after a dot, at most four of them. -/
def leadingSelection? : Text → Option Text
  | '.' :: rest => nonEmpty? ((rest.takeWhile isWordLetter).take 4)
  | _ => none

/-- The first register in a text, with the selection that follows it directly. -/
def firstRegister? : Text → Option (Register × Option Text)
  | [] => none
  | c :: rest =>
    match Register.leading? (c :: rest) with
    | some (register, after) => some (register, leadingSelection? after)
    | none => firstRegister? rest

/-- The first register of an operand written in either case. -/
def registerParts? (t : Text) : Option (Register × Option Text) := firstRegister? (Text.lower t)

end AsmCheck.Operand
