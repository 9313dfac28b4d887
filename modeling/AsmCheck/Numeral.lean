import AsmCheck.Text.Basic

/-!
# Numerals

Numbers written in ASCII digits. Hexadecimal digits are read in either case and printed in lower
case.
-/

namespace AsmCheck.Numeral

set_option autoImplicit false

def hexValue? (c : Char) : Option Nat :=
  if '0' ≤ c ∧ c ≤ '9' then some (c.toNat - '0'.toNat)
  else if 'a' ≤ c ∧ c ≤ 'f' then some (c.toNat - 'a'.toNat + 10)
  else if 'A' ≤ c ∧ c ≤ 'F' then some (c.toNat - 'A'.toNat + 10)
  else none

def isHexDigit (c : Char) : Bool := (hexValue? c).isSome

/-- Whether a text is a hexadecimal numeral: digits, and at least one. -/
def isHex (t : Text) : Bool := !t.isEmpty && t.all isHexDigit

/-- Whether a text is a decimal numeral: digits, and at least one. -/
def isDecimal (t : Text) : Bool := !t.isEmpty && t.all Char.isDigit

/-- The number with the given digits, the most significant one first. -/
def ofDigits (base : Nat) (digits : List Nat) : Nat :=
  digits.foldl (fun n d => n * base + d) 0

/-- The number that digits of either case write in the given base. -/
def read (base : Nat) (t : Text) : Nat := ofDigits base (t.map fun c => (hexValue? c).getD 0)

/-- The last `width` hexadecimal digits of a number. -/
def hexDigits : Nat → Nat → Text
  | 0, _ => []
  | width + 1, n => hexDigits width (n / 16) ++ [Nat.digitChar (n % 16)]

@[simp] theorem length_hexDigits (width n : Nat) : (hexDigits width n).length = width := by
  induction width generalizing n with
  | zero => rfl
  | succ width ih => simp [hexDigits, ih]

end AsmCheck.Numeral
