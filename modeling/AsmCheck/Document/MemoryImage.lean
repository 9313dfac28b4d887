import AsmCheck.Document.Node
import AsmCheck.Document.Position
import AsmCheck.Numeral
import AsmCheck.Problem
import AsmCheck.Text.Blank

/-!
# Memory images

The hexadecimal digits of a memory section, whatever stands between them, are packed into words of
four digits; the last word of a section may have fewer. Comments run from a semicolon to the end of
the line, and any other character that is not blank is reported.
-/

namespace AsmCheck.MemoryImage

set_option autoImplicit false

/-- A character of a document with its position. -/
abbrev Placed := Char × Position

/-- The characters outside comments of a text that starts at the given position. -/
def uncommented (inComment : Bool) (p : Position) : Text → List Placed
  | [] => []
  | c :: rest =>
    if c = '\n' then (c, p) :: uncommented false (p.advance c) rest
    else if inComment || c = ';' then uncommented true (p.advance c) rest
    else (c, p) :: uncommented false (p.advance c) rest

/-- Consecutive groups of four; the last one may be shorter but is not empty. -/
def groupsOfFour {α : Type} : List α → List (List α)
  | [] => []
  | [a] => [[a]]
  | [a, b] => [[a, b]]
  | [a, b, c] => [[a, b, c]]
  | a :: b :: c :: d :: rest => [a, b, c, d] :: groupsOfFour rest

/-- The digits of a memory section, in order. -/
def digits (p : Position) (body : Text) : List Placed :=
  (uncommented false p body).filter fun placed => Numeral.isHexDigit placed.1

/-- The characters of a memory section that do not belong there, in order. -/
def strangers (p : Position) (body : Text) : List Placed :=
  (uncommented false p body).filter fun placed =>
    !Numeral.isHexDigit placed.1 && !Text.isBlank placed.1

/-- The word that a group of digits writes, at the position of its first digit. -/
def word? : List Placed → Option MemoryWord
  | [] => none
  | (c, p) :: rest => some
    { value := Numeral.read 16 (c :: rest.map (·.1))
      line := p.line
      column := p.column }

/-- The words of a memory section that starts at the given position. -/
def words (p : Position) (body : Text) : List MemoryWord :=
  (groupsOfFour (digits p body)).filterMap word?

def report (file? : Option String) (stranger : Placed) : Diagnostic :=
  let p := stranger.2
  { (Problem.memoryCharacter stranger.1).markRange (p.column, p.column + 1) with
    line? := some p.line
    file? := file? }

/-- The reports on a memory section that starts at the given position. -/
def reports (file? : Option String) (p : Position) (body : Text) : List Diagnostic :=
  (strangers p body).map (report file?)

end AsmCheck.MemoryImage
