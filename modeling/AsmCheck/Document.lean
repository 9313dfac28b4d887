import AsmCheck.Document.MemoryImage
import AsmCheck.Document.Section
import AsmCheck.Document.SourceLine

/-!
# Documents

A document is read section by section. Words of code are numbered from a fixed base over all code
sections, so the address of a line is the base plus the number of words that the lines before it
occupy.
-/

namespace AsmCheck

set_option autoImplicit false

/-- The address of the first word of code. -/
def codeBase : Int := 0x40

/-- A memory section that starts at the given position, or one line of a code section. -/
inductive Item where
  | memory (position : Position) (body : Text)
  | line (source : SourceLine)
  deriving DecidableEq

namespace Item

/-- The number of words of code that an item occupies. -/
def words : Item → Nat
  | .memory _ _ => 0
  | .line l => l.words

/-- What an item adds to its document. -/
def read (file? : Option String) (address : Int) : Item → Contribution
  | .memory p body =>
    { nodes := (MemoryImage.words p body).map .memory
      diagnostics := MemoryImage.reports file? p body }
  | .line l => l.read file? address

end Item

namespace Document

/-- The lines of code that start at the given position. Carriage returns at the end of a line do
not count. -/
def linesFrom (p : Position) : List Text → List SourceLine
  | [] => []
  | line :: rest =>
    { text := Text.dropEndWhile (· == '\r') line
      line := p.line
      column := p.column } :: linesFrom p.nextLine rest

def sectionItems (t : Text) (s : Section) : List Item :=
  let p := Position.ofOffset t s.start
  match s.kind with
  | .memory => [.memory p (s.body t)]
  | .code => (linesFrom p (Text.pieces '\n' (s.body t))).map .line

/-- The items of a document, in order. -/
def items (t : Text) : List Item := (Section.ofText t).flatMap (sectionItems t)

/-- What items add to their document, if the next word of code has the given address. -/
def readFrom (file? : Option String) (address : Int) : List Item → Contribution
  | [] => .empty
  | item :: rest => item.read file? address ++ readFrom file? (address + item.words) rest

/-- The nodes and diagnostics of a document. -/
def read (file? : Option String) (t : Text) : Contribution := readFrom file? codeBase (items t)

end Document

end AsmCheck
