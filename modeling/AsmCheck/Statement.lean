import AsmCheck.Span
import AsmCheck.Text.Blank
import AsmCheck.Text.LowerCase

/-!
# Statements

A statement is one line of code cut into its instruction, size, operands and comment. Every part
keeps its position in the line. A semicolon starts a comment wherever it stands, and operands are
separated by commas.
-/

namespace AsmCheck

set_option autoImplicit false

/-- Everything from the first semicolon on is a comment. -/
def codePart (line : Text) : Text := Text.before ';' line

def commentSpan? (line : Text) : Option Span :=
  match line.dropWhile (· != ';') with
  | [] => none
  | comment => some (Span.ofText (codePart line).length comment)

/-- The code of a line without its comment and without blanks around it. -/
def trimmedCode (line : Text) : Text := Text.trim (codePart line)

/-- The trimmed pieces of an operand list whose first piece starts at the given column. -/
def locateOperands (column : Int) : List Text → List Span
  | [] => []
  | piece :: rest =>
    Span.ofText (column + Text.indent piece) (Text.trim piece) ::
      locateOperands (column + piece.length + 1) rest

/-- The operands of a list that starts at the given column; a blank list has none. -/
def operandSpans (list : Text) (column : Int) : List Span :=
  if Text.isBlankText list then [] else locateOperands column (Text.pieces ',' list)

structure Statement where
  instruction : Span
  size? : Option Span
  operands : List Span
  comment? : Option Span
  deriving DecidableEq

namespace Statement

def isLineEnd (c : Char) : Bool := c == '\r' || c == '\n'

/-- A semicolon needs no mention, since the code of a line has none. -/
def isInstructionChar (c : Char) : Bool := !Text.isBlank c && c != '.'

/-- The size that a text starts with: a dot and all that follows up to a blank. -/
def leadingSize : Text → Text
  | '.' :: rest => '.' :: rest.takeWhile (!Text.isBlank ·)
  | _ => []

/-- The statement of a line. There is none if the code of the line is blank or starts with a
dot. -/
def ofLine? (line : Text) : Option Statement :=
  let line := Text.dropEndWhile isLineEnd line
  let code := codePart line
  let lead := Text.indent code
  let body := Text.trimStart code
  let instruction := body.takeWhile isInstructionChar
  let afterInstruction := body.dropWhile isInstructionChar
  let size := leadingSize afterInstruction
  let gap := afterInstruction.drop size.length
  let operandColumn := lead + instruction.length + size.length + Text.indent gap
  if instruction.isEmpty then none
  else some
    { instruction := Span.ofText lead instruction
      size? := if size.isEmpty then none else some (Span.ofText (lead + instruction.length) size)
      operands := operandSpans (Text.trimStart gap) operandColumn
      comment? := commentSpan? line }

/-- The range from the instruction to its size. -/
def headRange (s : Statement) : Int × Int :=
  (s.instruction.start,
    match s.size? with
    | some size => max s.instruction.stop size.stop
    | none => s.instruction.stop)

/-- The range from the first operand to the last, or the head if there is none. -/
def operandRange (s : Statement) : Int × Int :=
  match s.operands with
  | [] => s.headRange
  | first :: rest => (first.start, ((first :: rest).getLast (by simp)).stop)

end Statement

/-- The first token of a line in lower case, and the rest of the line without blanks around it. -/
def splitFirstToken (line : Text) : Text × Text :=
  let parts := Text.firstToken line
  (Text.lower parts.1, Text.trim parts.2)

end AsmCheck
