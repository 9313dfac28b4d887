import AsmCheck.Text.Basic

/-!
# Positions in a document

A position is a line, counted from one, and a column, counted from zero. Reading a character moves
to the next column, and reading a line feed to the start of the next line.
-/

namespace AsmCheck

set_option autoImplicit false

structure Position where
  line : Nat
  column : Nat
  deriving DecidableEq

namespace Position

/-- Where a document starts. -/
def start : Position := ⟨1, 0⟩

def advance (p : Position) (c : Char) : Position :=
  if c = '\n' then ⟨p.line + 1, 0⟩ else ⟨p.line, p.column + 1⟩

/-- The position after reading a text from a position. -/
def after (p : Position) (t : Text) : Position := t.foldl advance p

/-- The position of an offset in a document. -/
def ofOffset (t : Text) (offset : Nat) : Position := start.after (t.take offset)

/-- The start of the line that follows. -/
def nextLine (p : Position) : Position := ⟨p.line + 1, 0⟩

@[simp] theorem after_nil (p : Position) : p.after [] = p := rfl

@[simp] theorem after_cons (p : Position) (c : Char) (t : Text) :
    p.after (c :: t) = (p.advance c).after t := rfl

theorem after_append (p : Position) (s t : Text) : p.after (s ++ t) = (p.after s).after t := by
  simp [after]

end Position

end AsmCheck
