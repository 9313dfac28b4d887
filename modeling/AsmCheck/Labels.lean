import AsmCheck.Document.Node
import AsmCheck.Problem

/-!
# Labels

Labels are collected over all nodes of a document before any use of a label is checked, so a label
may be used before its definition. The first definition of a name counts.
-/

namespace AsmCheck

set_option autoImplicit false

/-- A label with the address and the line of its definition. -/
structure Symbol where
  name : Text
  address : Int
  line : Int
  deriving DecidableEq

abbrev SymbolTable := List Symbol

namespace SymbolTable

def find? (table : SymbolTable) (name : Text) : Option Symbol :=
  List.find? (fun symbol => symbol.name == name) table

def isDefined (table : SymbolTable) (name : Text) : Bool := (table.find? name).isSome

/-- Adds a label unless its name is in use. -/
def define (table : SymbolTable) (l : LabelDefinition) : SymbolTable :=
  if table.isDefined l.name then table else table ++ [⟨l.name, l.address, l.line⟩]

end SymbolTable

namespace Labels

def definitions (nodes : List Node) : List LabelDefinition :=
  nodes.filterMap fun
    | .label l => some l
    | _ => none

/-- The table of all labels, in the order of their first definitions. -/
def table (nodes : List Node) : SymbolTable := (definitions nodes).foldl SymbolTable.define []

def repeated (file? : Option String) (l : LabelDefinition) (first : Symbol) : Diagnostic :=
  let range := (l.column, l.column + l.name.length + 1)
  { (Problem.labelRepeated l.name first.line).markRange range with
    line? := some l.line
    file? := file? }

/-- The reports of definitions whose name is in use already. -/
def repetitions (file? : Option String) (table : SymbolTable) :
    List LabelDefinition → List Diagnostic
  | [] => []
  | l :: rest =>
    ((table.find? l.name).map (repeated file? l)).toList ++
      repetitions file? (table.define l) rest

def isUndefinedUse (table : SymbolTable) (op : Span) : Bool :=
  Operand.Kind.ofText? op.text == some .label && !table.isDefined (op.text.drop 1)

/-- The reports of labels that a node uses and no node defines. Lines that are not valid are
reported elsewhere. -/
def undefinedUses (file? : Option String) (table : SymbolTable) : Node → List Diagnostic
  | .instruction l =>
    if l.valid then
      (l.statement.operands.filter (isUndefinedUse table)).map fun op =>
        ((Problem.labelUndefined op.text).mark op).placed l.line l.column file?
    else []
  | _ => []

end Labels

/-- The labels and the sizes of a document, with what is wrong with its labels. -/
structure Resolution where
  symbols : SymbolTable
  codeSize : Nat
  memorySize : Nat
  diagnostics : List Diagnostic
  deriving DecidableEq

def Node.isCode : Node → Bool
  | .instruction _ | .literal _ => true
  | _ => false

def Node.isMemory : Node → Bool
  | .memory _ => true
  | _ => false

def Resolution.ofNodes (file? : Option String) (nodes : List Node) : Resolution :=
  let table := Labels.table nodes
  { symbols := table
    codeSize := nodes.countP Node.isCode
    memorySize := nodes.countP Node.isMemory
    diagnostics :=
      Labels.repetitions file? [] (Labels.definitions nodes) ++
        nodes.flatMap (Labels.undefinedUses file? table) }

end AsmCheck
