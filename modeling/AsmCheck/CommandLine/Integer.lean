import AsmCheck.Numeral
import AsmCheck.Text.Blank
import AsmCheck.Text.Digit

/-!
# Integers on the command line

An integer is an optional sign and decimal digits of any script, with single underscores between
digits allowed and blanks around the whole. The four separator controls of ASCII do not count as
blanks here.
-/

namespace AsmCheck.CommandLine

set_option autoImplicit false

def isPadding (c : Char) : Bool :=
  Text.isBlank c && !(0x1C ≤ c.toNat && c.toNat ≤ 0x1F)

def trimPadding (t : Text) : Text := Text.dropEndWhile isPadding (t.dropWhile isPadding)

/-- The values of a run of decimal digits, if it is one and not empty. -/
def digitValues? (t : Text) : Option (List Nat) :=
  if t.isEmpty then none else t.mapM Text.decimalValue?

/-- The number that groups of digits joined by underscores write. -/
def readUnsigned? (t : Text) : Option Nat :=
  ((Text.pieces '_' t).mapM digitValues?).map fun groups => Numeral.ofDigits 10 groups.flatten

def readInteger? (t : Text) : Option Int :=
  match trimPadding t with
  | '-' :: digits => (readUnsigned? digits).map fun n => -(n : Int)
  | '+' :: digits => (readUnsigned? digits).map Int.ofNat
  | digits => (readUnsigned? digits).map Int.ofNat

end AsmCheck.CommandLine
