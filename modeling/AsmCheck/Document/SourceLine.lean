import AsmCheck.Document.Node
import AsmCheck.Numeral
import AsmCheck.Rules

/-!
# Lines of code

A line of a code section is blank, an instruction, a word in hexadecimal after an exclamation mark,
a label after a colon, or unknown. Instructions and hexadecimal words occupy one word of code each,
whether they are correct or not; no other line occupies any.
-/

namespace AsmCheck

set_option autoImplicit false

/-- A line of code that starts at the given position of a document. -/
structure SourceLine where
  text : Text
  line : Int
  column : Int
  deriving DecidableEq

inductive LineKind where
  | blank
  | instruction (family : Family)
  | literal (digits : Text)
  | label (name : Text)
  | unknown (token : Text)
  deriving DecidableEq

/-- The nodes and diagnostics found in a part of a document. -/
structure Contribution where
  nodes : List Node
  diagnostics : List Diagnostic
  deriving DecidableEq

namespace Contribution

def empty : Contribution := ⟨[], []⟩

def append (a b : Contribution) : Contribution :=
  ⟨a.nodes ++ b.nodes, a.diagnostics ++ b.diagnostics⟩

instance : Append Contribution := ⟨append⟩

def ofNode (node : Node) : Contribution := ⟨[node], []⟩

def ofDiagnostic (diagnostic : Diagnostic) : Contribution := ⟨[], [diagnostic]⟩

end Contribution

namespace SourceLine

/-- The code of a line, without comment and without blanks around it. -/
def code (l : SourceLine) : Text := trimmedCode l.text

def kind (l : SourceLine) : LineKind :=
  if l.code.isEmpty then .blank
  else match Family.ofToken? (splitFirstToken l.code).1 with
    | some family => .instruction family
    | none => match l.code with
      | '!' :: rest => .literal (Text.removeBlanks rest)
      | ':' :: rest => .label (Text.removeBlanks rest)
      | code => .unknown (Text.firstToken code).1

/-- The number of words of code that a line occupies. -/
def words (l : SourceLine) : Nat :=
  match l.kind with
  | .instruction _ | .literal _ => 1
  | _ => 0

/-- The column at which the code of a line starts. -/
def codeStart (l : SourceLine) : Int := l.column + Text.indent l.text

/-- The column at which the code of a line ends. -/
def codeStop (l : SourceLine) : Int := l.column + (Text.trimEnd (codePart l.text)).length

/-- The report of a problem with the code of a line. -/
def report (file? : Option String) (l : SourceLine) (problem : Problem) : Contribution :=
  .ofDiagnostic
    { problem.markRange (l.codeStart, l.codeStop) with line? := some l.line, file? := file? }

def readInstruction (file? : Option String) (address : Int) (l : SourceLine) (family : Family) :
    Contribution :=
  let verdict := checkLine l.text
  { nodes := match Statement.ofLine? l.text with
      | some statement =>
        [.instruction
          { text := l.code
            statement := statement
            family := family
            line := l.line
            column := l.column
            address := address
            valid := verdict.isNone }]
      | none => []
    diagnostics := (verdict.map (·.placed l.line l.column file?)).toList }

def readLiteral (file? : Option String) (address : Int) (l : SourceLine) (digits : Text) :
    Contribution :=
  if !Numeral.isHex digits then l.report file? (.literalDigits l.code)
  else if Numeral.read 16 digits < 65536 then
    .ofNode (.literal
      { value := Numeral.read 16 digits
        line := l.line
        column := l.codeStart
        address := address })
  else l.report file? .literalRange

def readLabel (file? : Option String) (address : Int) (l : SourceLine) (name : Text) :
    Contribution :=
  if Operand.isLabelName name then
    .ofNode (.label
      { name := name
        line := l.line
        column := l.codeStart
        address := address })
  else l.report file? (.labelName l.code)

/-- What a line adds to its document, if its word of code has the given address. -/
def read (file? : Option String) (address : Int) (l : SourceLine) : Contribution :=
  match l.kind with
  | .blank => .empty
  | .instruction family => l.readInstruction file? address family
  | .literal digits => l.readLiteral file? address digits
  | .label name => l.readLabel file? address name
  | .unknown token => l.report file? (.unknownInstruction token)

end SourceLine

end AsmCheck
