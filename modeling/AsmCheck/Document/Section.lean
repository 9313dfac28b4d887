import AsmCheck.Text.WordChar

/-!
# Sections

A document is divided by markers into sections of memory and of code. A marker is a dot and the
name of a section that no word character follows. A section reaches from the end of its marker to
the next marker or to the end of the text, and what precedes the first marker belongs to none.
-/

namespace AsmCheck

set_option autoImplicit false

inductive SectionKind where
  | memory
  | code
  deriving DecidableEq

namespace SectionKind

def name : SectionKind → String
  | .memory => "memory"
  | .code => "code"

def marker : SectionKind → Text
  | .memory => ['.', 'm', 'e', 'm', 'o', 'r', 'y']
  | .code => ['.', 'c', 'o', 'd', 'e']

end SectionKind

/-- Whether a text starts with a marker of the given kind. -/
def startsSection (kind : SectionKind) (t : Text) : Bool :=
  kind.marker.isPrefixOf t && !((t.drop kind.marker.length).head?.any Text.isWordChar)

/-- The kind of the marker that a text starts with. -/
def marker? (t : Text) : Option SectionKind :=
  if startsSection .memory t then some .memory
  else if startsSection .code t then some .code
  else none

/-- The markers of a text that starts at the given offset, with the offset of each. -/
def markersFrom : Nat → Text → List (SectionKind × Nat)
  | _, [] => []
  | offset, c :: rest =>
    match marker? (c :: rest) with
    | some kind => (kind, offset) :: markersFrom (offset + 1) rest
    | none => markersFrom (offset + 1) rest

/-- A section covers the half-open range of offsets after its marker. -/
structure Section where
  kind : SectionKind
  start : Nat
  stop : Nat
  deriving DecidableEq

namespace Section

/-- The sections after the given markers, in a text of the given length. -/
def ofMarkers (length : Nat) : List (SectionKind × Nat) → List Section
  | [] => []
  | (kind, offset) :: rest =>
    let stop := match rest with
      | [] => length
      | (_, next) :: _ => next
    ⟨kind, offset + kind.marker.length, stop⟩ :: ofMarkers length rest

def ofText (t : Text) : List Section := ofMarkers t.length (markersFrom 0 t)

/-- The part of a text that a section covers. -/
def body (t : Text) (s : Section) : Text := (t.drop s.start).take (s.stop - s.start)

end Section

end AsmCheck
