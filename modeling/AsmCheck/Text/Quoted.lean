import AsmCheck.Numeral
import AsmCheck.Text.Printable

/-!
# Quoted text

A quoted text stands in single quotes, or in double quotes when it holds single quotes and no
double ones. The quote in use and the backslash are escaped by a backslash, and so is every
character that cannot be printed, by name or by its code point in hexadecimal.
-/

namespace AsmCheck.Text

set_option autoImplicit false

open Numeral (hexDigits)

def quoteMark (t : Text) : Char :=
  if t.contains '\'' && !t.contains '"' then '"' else '\''

/-- The escape of a character that cannot be printed, by the width its code point needs. -/
def escapeCode (n : Nat) : Text :=
  if n < 0x100 then '\\' :: 'x' :: hexDigits 2 n
  else if n < 0x10000 then '\\' :: 'u' :: hexDigits 4 n
  else '\\' :: 'U' :: hexDigits 8 n

def escapeChar (mark c : Char) : Text :=
  if c = mark || c = '\\' then ['\\', c]
  else if c = '\t' then ['\\', 't']
  else if c = '\n' then ['\\', 'n']
  else if c = '\r' then ['\\', 'r']
  else if isPrintable c then [c]
  else escapeCode c.toNat

def quoted (t : Text) : Text :=
  let mark := quoteMark t
  mark :: t.flatMap (escapeChar mark) ++ [mark]

end AsmCheck.Text
