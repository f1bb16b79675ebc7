import ErDiagram.CommandLine

/-! The program: reads the input that the command line names, prints, and sets the exit status. -/

open ErDiagram.CommandLine

/-- The bytes as text, if they are UTF-8. -/
def decodeInput (bytes : ByteArray) : Except InputFault String :=
  match String.fromUTF8? bytes with
  | some text => .ok text
  | none => .error .notText

def readInput (file : Option String) : IO (Except InputFault String) := do
  try
    match file with
    | some name => return decodeInput (← IO.FS.readBinFile name)
    | none => return decodeInput (← (← IO.getStdin).readBinToEnd)
  catch
    | .noFileOrDirectory .. => return .error .notFound
    | error => return .error (.other (toString error))

def main (arguments : List String) : IO UInt32 := do
  match Request.ofArguments arguments with
  | .misuse =>
    IO.eprint usage
    return 2
  | .help =>
    IO.print usage
    return 0
  | .run options =>
    match options.outcome (← readInput options.file) with
    | .printed text =>
      IO.print text
      return 0
    | .failed message =>
      IO.eprint (errorLine message)
      return 1
