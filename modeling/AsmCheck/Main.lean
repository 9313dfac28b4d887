import AsmCheck.CommandLine.Run

/-!
# The command

Reads the source that the arguments name and prints what the checker says about it.
-/

namespace AsmCheck.CommandLine

set_option autoImplicit false

/-- Reads a file, telling apart the ways in which that fails. -/
def readSource (path : String) : IO (Except ReadError ByteArray) := do
  try
    return .ok (← IO.FS.readBinFile path)
  catch
    | .inappropriateType _ code _ =>
      return .error (if code = 21 then .isDirectory else .notDirectory)
    | .noFileOrDirectory .. => return .error .missing
    | error => throw error

def printOutcome (outcome : Outcome) : IO UInt32 := do
  IO.print outcome.output
  IO.eprint outcome.errors
  return outcome.exit.toUInt32

end AsmCheck.CommandLine

open AsmCheck AsmCheck.CommandLine in
def main (arguments : List String) : IO UInt32 := do
  match Request.ofArguments Report.defaultLimit (arguments.map String.toList) with
  | .error stop => printOutcome stop.outcome
  | .ok request =>
    match request.answer (← readSource (String.ofList request.source)) with
    | .ok outcome => printOutcome outcome
    | .error .nulInPath => throw (IO.userError "the path of the source holds a null character")
    | .error .notUtf8 => throw (IO.userError "the source is not valid UTF-8")
    | .error .limitWithoutNumber => throw (IO.userError "the limit is not a number")
