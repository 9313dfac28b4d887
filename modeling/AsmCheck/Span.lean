import AsmCheck.Text.Basic

/-!
# Spans

A span is a piece of a line together with the half-open range of columns that it covers.
-/

namespace AsmCheck

set_option autoImplicit false

structure Span where
  start : Int
  stop : Int
  text : Text
  deriving DecidableEq

namespace Span

/-- The span of a text that starts at the given column. -/
def ofText (start : Int) (text : Text) : Span := ⟨start, start + text.length, text⟩

def covers (span : Span) (column : Int) : Bool := span.start ≤ column && column < span.stop

end Span

end AsmCheck
