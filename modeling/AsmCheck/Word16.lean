import AsmCheck.InvalidInput
import AsmCheck.Numeral

/-!
# Words of sixteen bits

An integer of any size and sign is wrapped into a word, and a word is printed as exactly four
hexadecimal digits.
-/

namespace AsmCheck.Word16

set_option autoImplicit false

/-- The word congruent to an integer modulo `2 ^ 16`. -/
def wrap (x : Int) : Nat := (x % 65536).toNat

/-- Whether a number is in `[0, 2 ^ bits)`. -/
def fits (x : Int) (bits : Nat) : Bool := 0 ≤ x && x < Nat.pow 2 bits

/-- Whether a number is in `[0, 2 ^ bits)`, for a width that has to be positive. -/
def fitsWidth (x bits : Int) : Except InvalidInput Bool :=
  if bits ≤ 0 then .error .widthNotPositive else .ok (fits x bits.toNat)

/-- The four hexadecimal digits of the word congruent to an integer. -/
def digits (x : Int) : Text := Numeral.hexDigits 4 (wrap x)

/-- The digits of a word after the mark of a hexadecimal number. -/
def marked (x : Int) : Text := '0' :: 'x' :: digits x

theorem wrap_lt (x : Int) : wrap x < 65536 := by
  unfold wrap
  omega

theorem length_digits (x : Int) : (digits x).length = 4 := by simp [digits]

end AsmCheck.Word16
