import AsmCheck.CommandLine.Arguments
import AsmCheck.CommandLine.SourceTree
import AsmCheck.Report
import AsmCheck.Word16

/-!
# Running the command

The command prints the diagnostics of one source. Its exit status is 1 if one of the diagnostics
that it prints is an error, 2 if it cannot read its arguments or its source, and 0 otherwise.
-/

namespace AsmCheck.CommandLine

set_option autoImplicit false

structure Outcome where
  exit : Nat
  output : String
  errors : String
  deriving DecidableEq

/-- The failures that the command does not report itself. -/
inductive Crash where
  | nulInPath
  | notUtf8
  | limitWithoutNumber
  deriving DecidableEq

def usageLine : String := "usage: wave2-asm-check [-h] [--max-problems MAX_PROBLEMS] source\n"

def helpText : String :=
  String.join
    [usageLine,
      "\n",
      "Wave2 Asm source checker\n",
      "\n",
      "positional arguments:\n",
      "  source                archivo fuente con secciones .memory/.code\n",
      "\n",
      "options:\n",
      "  -h, --help            show this help message and exit\n",
      "  --max-problems MAX_PROBLEMS\n",
      "                        número máximo de diagnósticos a mostrar (por defecto\n",
      "                        1000)\n"]

/-- Line feeds, carriage returns and pairs of them all end a line; each becomes a line feed. -/
def uniformNewlines : Text → Text
  | [] => []
  | '\r' :: '\n' :: rest => '\n' :: uniformNewlines rest
  | '\r' :: rest => '\n' :: uniformNewlines rest
  | c :: rest => c :: uniformNewlines rest

def Stop.outcome : Stop → Outcome
  | .help => ⟨0, helpText, ""⟩
  | .usage error => ⟨2, "", s!"{usageLine}wave2-asm-check: error: {error.message}\n"⟩

def unreadable (source : Text) (error : ReadError) : Outcome :=
  let name := String.ofList source
  let reason := s!"{error.message}: {String.ofList (Text.quoted source)}"
  ⟨2, "", s!"ERROR: no pude leer {name}: {reason}\n"⟩

/-- The line printed for a source without errors. -/
def summary (resolution : Resolution) : String :=
  let base := String.ofList (Word16.marked codeBase)
  s!"OK: {resolution.codeSize} palabras de código desde {base}, " ++
    s!"{resolution.symbols.length} etiquetas, {resolution.memorySize} palabras de memoria\n"

def Outcome.ofReport (report : Report) : Outcome :=
  let errors := String.join (report.diagnostics.map fun d => d.render ++ "\n")
  if report.hasError then ⟨1, "", errors⟩ else ⟨0, summary report.resolution, errors⟩

/-- The answer to a request for a source of the given name, given its text. -/
def checkSource (source : Text) (limit : Int) (t : Text) : Outcome :=
  .ofReport (Report.ofText (some (String.ofList source)) limit (uniformNewlines t))

/-- The answer to a request, given the bytes of its source. A path cannot hold a null character,
and the limit is looked at last. -/
def Request.answer (request : Request) (bytes : Except ReadError ByteArray) :
    Except Crash Outcome :=
  if request.source.contains '\x00' then .error .nulInPath
  else match bytes with
    | .error error => .ok (unreadable request.source error)
    | .ok bytes =>
      match String.fromUTF8? bytes, request.limit? with
      | none, _ => .error .notUtf8
      | some _, none => .error .limitWithoutNumber
      | some content, some limit => .ok (checkSource request.source limit content.toList)

/-- Runs the command in a source tree. -/
def run (tree : SourceTree) (arguments : List Text) : Except Crash Outcome :=
  match Request.ofArguments Report.defaultLimit arguments with
  | .error stop => .ok stop.outcome
  | .ok request => request.answer (tree.read request.source)

end AsmCheck.CommandLine
