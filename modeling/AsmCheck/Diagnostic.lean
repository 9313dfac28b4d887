import AsmCheck.Span
import AsmCheck.Text.UpperCase

/-!
# Diagnostics

A diagnostic reports a problem over a half-open range of columns. A line, a column offset and a
file are added when the line that it speaks of is placed in a document.
-/

namespace AsmCheck

set_option autoImplicit false

inductive Severity where
  | error
  | warning
  | information
  | hint
  | other (name : Text)
  deriving DecidableEq

namespace Severity

def name : Severity → String
  | .error => "error"
  | .warning => "warning"
  | .information => "information"
  | .hint => "hint"
  | .other name => String.ofList name

/-- How a severity is printed in front of a message. -/
def label : Severity → String
  | .error => "ERROR"
  | .warning => "WARNING"
  | .information => "INFO"
  | .hint => "HINT"
  | .other name => String.ofList (Text.upper name)

def ofName (name : String) : Severity :=
  if name = "error" then .error
  else if name = "warning" then .warning
  else if name = "information" then .information
  else if name = "hint" then .hint
  else .other name.toList

end Severity

structure Diagnostic where
  severity : Severity
  message : String
  start : Int
  stop : Int
  line? : Option Int := none
  file? : Option String := none
  source : String := "Wave2 Asm"
  deriving DecidableEq

namespace Diagnostic

/-- The diagnostic placed on a line whose code starts at the given column. A file that is already
set stays unless another one is given. -/
def placed (d : Diagnostic) (line column : Int) (file? : Option String) : Diagnostic :=
  { d with
    start := d.start + column
    stop := d.stop + column
    line? := some line
    file? := file?.or d.file? }

/-- The place of a diagnostic as it is printed, with columns counted from one. -/
def place (d : Diagnostic) : String :=
  let file := match d.file? with
    | some file => file ++ ":"
    | none => ""
  let position := match d.line? with
    | some line => s!"{line}:{d.start + 1}"
    | none => ""
  if d.file?.isSome || d.line?.isSome then file ++ position ++ ": " else ""

def render (d : Diagnostic) : String := s!"{d.place}{d.severity.label}: {d.message}"

/-- The position in a document by which diagnostics are ordered; without a line it is line 0. -/
def position (d : Diagnostic) : Int × Int := (d.line?.getD 0, d.start)

end Diagnostic

end AsmCheck
