import ErDiagram.Translation

/-! The command line: options, the input they ask for, and what is printed. Translation is the default; `--check` only
    validates, and `--reverse` goes from statement text to JSON. -/

namespace ErDiagram.CommandLine

inductive Switch where
  | lenient
  | check
  | reverse
  | logLevel
  deriving DecidableEq

/-- What was asked for: the switches and the input file, without which standard input is read. -/
structure Options where
  switches : List Switch
  file : Option String

def Options.has (o : Options) (switch : Switch) : Bool := o.switches.contains switch

inductive Request where
  | run (options : Options)
  | help
  | misuse

/-- No switch is given twice. -/
def Options.add? (o : Options) (switch : Switch) : Option Options :=
  if o.has switch then none else some { o with switches := switch :: o.switches }

/-- There is one file at most, and its name is not empty. -/
def Options.addFile? (o : Options) (name : String) : Option Options :=
  if name = "" || o.file.isSome then none else some { o with file := some name }

/-- An argument that starts with a hyphen is an option, except for the lone hyphen. -/
def isOption (argument : String) : Bool := ['-'].isPrefixOf argument.toList && argument ≠ "-"

def logLevelPrefix : String := "--log-level="

def switch? (argument : String) : Option Switch :=
  if argument = "--lenient" then some .lenient
  else if argument = "--check" then some .check
  else if argument = "--reverse" then some .reverse
  else if logLevelPrefix.toList.isPrefixOf argument.toList then some .logLevel
  else none

/-- Checking and reversing exclude each other. -/
def Options.request (o : Options) : Request :=
  if o.has .check && o.has .reverse then .misuse else .run o

/-- The arguments after a double hyphen are files, whatever they look like. -/
def readFiles (o : Options) : List String → Request
  | [] => o.request
  | name :: rest =>
    match o.addFile? name with
    | some o => readFiles o rest
    | none => .misuse

/-- Reads the arguments in order and stops at the first that is not understood, or at a request for help. -/
def readArguments (o : Options) : List String → Request
  | [] => o.request
  | "--" :: rest => readFiles o rest
  | "--log-level" :: level :: rest =>
    match o.add? .logLevel with
    | some o => if isOption level then .misuse else readArguments o rest
    | none => .misuse
  | argument :: rest =>
    if argument = "--help" || ['-', 'h'].isPrefixOf argument.toList then .help
    else if isOption argument then
      match (switch? argument).bind o.add? with
      | some o => readArguments o rest
      | none => .misuse
    else
      match o.addFile? argument with
      | some o => readArguments o rest
      | none => .misuse

def Request.ofArguments (arguments : List String) : Request := readArguments ⟨[], none⟩ arguments

inductive InputFault where
  | notFound
  | notText
  | other (reason : String)

def InputFault.text : InputFault → String
  | .notFound => "No such file or directory (os error 2)"
  | .notText => "stream did not contain valid UTF-8"
  | .other reason => reason

def Options.sourceName (o : Options) : String := o.file.getD "stdin"

/-- What the program prints, and whether it succeeds. -/
inductive Outcome where
  | printed (text : String)
  | failed (message : String)

/-- The text to print for an input. -/
def Options.result (o : Options) (input : String) : Except Failure String :=
  if o.has .reverse then (· ++ "\n") <$> reverse input
  else if o.has .check then do
    (← Diagram.ofJson input).check
    return "ok\n"
  else translate (if o.has .lenient then .tolerant else .strict) input

def Options.outcome (o : Options) (input : Except InputFault String) : Outcome :=
  match input with
  | .error fault => .failed ("failed to read " ++ o.sourceName ++ ": " ++ fault.text)
  | .ok text =>
    match o.result text with
    | .ok output => .printed output
    | .error failure => .failed failure.message

def errorLine (message : String) : String := "ERROR: " ++ message ++ "\n"

def usage : String :=
  "\n".intercalate [
    "Translate ER diagram JSON into the diagram editor's DSL",
    "",
    "Arguments:",
    "  [FILE]                   Input file (reads from stdin if not provided)",
    "",
    "Options:",
    "      --lenient            Serialize despite schema violations (unresolved references still fail)",
    "      --check              Only validate the JSON diagram and report violations",
    "      --reverse            Read DSL text and print the diagram as JSON",
    "      --log-level <LEVEL>  Log level [default: warn]",
    "  -h, --help               Print help",
    ""]

end ErDiagram.CommandLine
