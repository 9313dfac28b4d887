import AsmCheck.Family
import AsmCheck.Operand.Description
import AsmCheck.Span

/-!
# Pages

A page of documentation has a title, a sentence, the parts that the operands play and a reference
to the manual. It is shown as markdown.
-/

namespace AsmCheck.Documentation

set_option autoImplicit false

/-- Why a page cannot be made from a statement. -/
inductive PageFault where
  | statementMissing
  | mnemonicMissing
  | operandCount
  | operandMissing
  | sizeUnknown
  | registerMissing
  | operandInvalid (cause : InvalidInput)
  deriving DecidableEq

/-- The part that an operand plays, with the description of the operand. -/
structure Role where
  name : String
  operand : Text
  description? : Option String
  deriving DecidableEq

/-- A section of a chapter of the manual. -/
structure Reference where
  chapter : String
  anchor : String
  deriving DecidableEq

structure Page where
  title : String
  body : String
  roles : List Role := []
  reference? : Option Reference := none
  deriving DecidableEq

def Role.ofOperand (name : String) (op : Span) : Except PageFault Role :=
  match Operand.describe op.text with
  | .ok description? => .ok ⟨name, op.text, description?⟩
  | .error cause => .error (.operandInvalid cause)

def Role.render (role : Role) : String :=
  let description := role.description?.getD "None"
  s!"- **{role.name}:** {description}"

/-- The section of a family is named like the family, in lower case and with hyphens. -/
def Reference.ofFamily (chapter : String) (family : Family) : Reference :=
  ⟨chapter, family.name.map fun c => if c = ' ' then '-' else c.toLower⟩

def Reference.render (r : Reference) : String :=
  s!"[Documentation](https://nimphio.us/wave2/w2s/instructions/{r.chapter}.html#{r.anchor})"

namespace Page

def renderRoles : List Role → String
  | [] => ""
  | roles => "\n\n" ++ "\n".intercalate (roles.map Role.render)

def renderReference : Option Reference → String
  | none => ""
  | some reference => "\n\n" ++ reference.render

def render (page : Page) : String :=
  s!"# {page.title}\n\n{page.body}" ++ renderRoles page.roles ++ renderReference page.reference?

end Page

end AsmCheck.Documentation
