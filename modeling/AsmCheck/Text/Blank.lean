import AsmCheck.Text.Ranges

/-!
# Blank characters

Blank characters are the separators and the white controls of all scripts. The zero-width space
and the byte-order mark are not blank.
-/

namespace AsmCheck.Text

set_option autoImplicit false

def blankRanges : List (Nat × Nat) :=
  [(0x9, 0xD), (0x1C, 0x20), (0x85, 0x85), (0xA0, 0xA0), (0x1680, 0x1680), (0x2000, 0x200A),
   (0x2028, 0x2029), (0x202F, 0x202F), (0x205F, 0x205F), (0x3000, 0x3000)]

def isBlank (c : Char) : Bool := inRanges blankRanges c

/-- Whether a text has no other characters than blanks. -/
def isBlankText (t : Text) : Bool := t.all isBlank

def trimStart (t : Text) : Text := t.dropWhile isBlank

/-- A text less its final run of characters in a class. -/
def dropEndWhile (p : Char → Bool) (t : Text) : Text := (t.reverse.dropWhile p).reverse

def trimEnd (t : Text) : Text := dropEndWhile isBlank t

def trim (t : Text) : Text := trimEnd (trimStart t)

/-- The number of blanks in front of a text. -/
def indent (t : Text) : Nat := (t.takeWhile isBlank).length

def removeBlanks (t : Text) : Text := t.filter (!isBlank ·)

/-- The first run of characters that are not blank, and what follows it. -/
def firstToken (t : Text) : Text × Text :=
  let t := trimStart t
  (t.takeWhile (!isBlank ·), t.dropWhile (!isBlank ·))

end AsmCheck.Text
