import AsmCheck.CommandLine.Integer
import AsmCheck.Text.Quoted

/-!
# Arguments

The command takes one source and an optional limit. Long options may be abbreviated as long as
they stay unambiguous and may carry their value after an equals sign, options and source come in
any order, and a double dash ends the options. Arguments are told apart first and used from left to
right afterwards.
-/

namespace AsmCheck.CommandLine

set_option autoImplicit false

inductive UsageError where
  | sourceMissing
  | unrecognized (arguments : List Text)
  | limitMissing
  | limitInvalid (value : Text)
  | helpValue (value : Text)
  | ambiguous (option : Text)
  deriving DecidableEq

def UsageError.message : UsageError → String
  | .sourceMissing => "the following arguments are required: source"
  | .unrecognized arguments =>
    "unrecognized arguments: " ++ " ".intercalate (arguments.map String.ofList)
  | .limitMissing => "argument --max-problems: expected one argument"
  | .limitInvalid value =>
    s!"argument --max-problems: invalid int value: {String.ofList (Text.quoted value)}"
  | .helpValue value =>
    s!"argument -h/--help: ignored explicit argument {String.ofList (Text.quoted value)}"
  | .ambiguous option =>
    s!"ambiguous option: {String.ofList option} could match --help, --max-problems"

/-- What an argument looks like on its own. -/
inductive Argument where
  | value (text : Text)
  /-- The double dash, after which there are only values. -/
  | separator
  /-- A request for help, with the value that it carries and does not take. -/
  | help (carried : Option Text)
  /-- The limit, with the value that it carries. -/
  | limit (carried : Option Text)
  | unknown (text : Text)
  deriving DecidableEq

namespace Argument

/-- What is left of a cluster of short requests for help once the requests are taken off it. -/
def afterHelp : Text → Option Text
  | [] => none
  | 'h' :: rest => afterHelp rest
  | rest => some rest

/-- The value that the short request for help carries, given the rest of its argument. More
requests may follow, also after an equals sign; anything else is a value. -/
def carriedByHelp : Text → Option Text
  | ['='] => some []
  | '=' :: rest => afterHelp rest
  | rest => afterHelp rest

/-- What follows the first equals sign, if there is one. -/
def afterEquals (t : Text) : Option Text :=
  match t.dropWhile (· != '=') with
  | [] => none
  | _ :: carried => some carried

def isDecimal (t : Text) : Bool := !t.isEmpty && t.all fun c => (Text.decimalValue? c).isSome

/-- Whether a text is a negative number: a minus sign and digits, or a fraction. -/
def isNegativeNumber (t : Text) : Bool :=
  match Text.dropFinalNewline t with
  | '-' :: rest =>
    isDecimal rest ||
      match rest.dropWhile fun c => (Text.decimalValue? c).isSome with
      | '.' :: fraction => isDecimal fraction
      | _ => false
  | _ => false

/-- An argument that no option accounts for: a value if it has a space, else an unknown option. -/
def valueOrUnknown (t : Text) : Argument := if t.contains ' ' then .value t else .unknown t

def helpOption : Text := ['-', '-', 'h', 'e', 'l', 'p']

def limitOption : Text := ['-', '-', 'm', 'a', 'x', '-', 'p', 'r', 'o', 'b', 'l', 'e', 'm', 's']

/-- An argument that starts with two dashes, by the options that it abbreviates. -/
def ofLong (t : Text) : Except UsageError Argument :=
  let name := Text.before '=' t
  match name.isPrefixOf helpOption, name.isPrefixOf limitOption with
  | true, true => .error (.ambiguous t)
  | true, false => .ok (.help (afterEquals t))
  | false, true => .ok (.limit (afterEquals t))
  | false, false => .ok (valueOrUnknown t)

def ofText (t : Text) : Except UsageError Argument :=
  match t with
  | '-' :: '-' :: _ => ofLong t
  | '-' :: 'h' :: rest => .ok (.help (carriedByHelp rest))
  | '-' :: _ :: _ => .ok (if isNegativeNumber t then .value t else valueOrUnknown t)
  | _ => .ok (.value t)

/-- Tells the arguments apart. -/
def ofTexts : List Text → Except UsageError (List Argument)
  | [] => .ok []
  | t :: rest =>
    if t = ['-', '-'] then .ok (.separator :: rest.map .value)
    else do
      let argument ← ofText t
      let more ← ofTexts rest
      return argument :: more

end Argument

/-- Why no source is checked. -/
inductive Stop where
  | help
  | usage (error : UsageError)
  deriving DecidableEq

/-- What has been gathered from the arguments read so far. -/
structure Gathered where
  source? : Option Text
  limit? : Option Int
  unused : List Text

namespace Gathered

/-- Sets the limit. A double dash is no value even where it is carried by the option, and leaves
the limit without a number. -/
def useLimit (g : Gathered) (value : Text) : Except Stop Gathered :=
  if value = ['-', '-'] then .ok { g with limit? := none }
  else match readInteger? value with
    | some limit => .ok { g with limit? := some limit }
    | none => .error (.usage (.limitInvalid value))

def useSource (g : Gathered) (source : Text) : Gathered := { g with source? := some source }

def leave (g : Gathered) (t : Text) : Gathered := { g with unused := g.unused ++ [t] }

/-- Reads arguments from left to right. The first value is the source, and a double dash next to
it belongs to it. -/
def gather (g : Gathered) : List Argument → Except Stop Gathered
  | [] => .ok g
  | .help none :: _ => .error .help
  | .help (some value) :: _ => .error (.usage (.helpValue value))
  | .limit (some value) :: rest => do (← g.useLimit value).gather rest
  | .limit none :: .value value :: rest => do (← g.useLimit value).gather rest
  | .limit none :: _ => .error (.usage .limitMissing)
  | .unknown t :: rest => (g.leave t).gather rest
  | .value t :: .separator :: rest =>
    if g.source?.isNone then (g.useSource t).gather rest
    else ((g.leave t).leave ['-', '-']).gather rest
  | .value t :: rest =>
    if g.source?.isNone then (g.useSource t).gather rest else (g.leave t).gather rest
  | .separator :: .value t :: rest =>
    if g.source?.isNone then (g.useSource t).gather rest
    else ((g.leave ['-', '-']).leave t).gather rest
  | .separator :: rest => (g.leave ['-', '-']).gather rest

end Gathered

/-- A source to check and the limit on its diagnostics, if that is a number. -/
structure Request where
  source : Text
  limit? : Option Int
  deriving DecidableEq

/-- The request that the arguments make, with the given limit if they set none. A missing source
is reported before arguments that are not used. -/
def Request.ofArguments (limit : Int) (arguments : List Text) : Except Stop Request :=
  match Argument.ofTexts arguments with
  | .error error => .error (.usage error)
  | .ok arguments => do
    let gathered ← Gathered.gather ⟨none, some limit, []⟩ arguments
    match gathered.source?, gathered.unused with
    | none, _ => .error (.usage .sourceMissing)
    | some source, [] => .ok ⟨source, gathered.limit?⟩
    | some _, unused => .error (.usage (.unrecognized unused))

end AsmCheck.CommandLine
