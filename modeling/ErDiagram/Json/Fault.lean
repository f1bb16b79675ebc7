import ErDiagram.Character.Quoted
import ErDiagram.Decimal.Shortest

/-! What can be wrong with a JSON text, where, and in which words. Positions count the bytes of the text; while it is
    read, a position is given by what is left of the text. -/

namespace ErDiagram.Json
open Character Decimal

/-- A value that was found where another was expected. -/
inductive Found where
  | null
  | boolean (value : Bool)
  | integer (value : Int)
  | float (negative : Bool) (magnitude : Binary64)
  | string (text : String)
  | sequence
  | map

/-- What was expected. A record is named. -/
inductive Expected where
  | string
  | sequence
  | record (name : String)
  | null

inductive Cause where
  | endInValue
  | endInList
  | endInObject
  | endInString
  | noColon
  | noListEnd
  | noObjectEnd
  | noValue
  | badWord
  | badNumber
  | badEscape
  | loneSurrogate
  | endOfHexEscape
  | controlCharacter
  | numberOutOfRange
  | keyNotString
  | trailingComma
  | trailingText
  | wrongType (found : Found) (expected : Expected)
  /-- An array of too few elements in place of a record. -/
  | wrongLength (length : Nat) (record : String) (fields : Nat)
  | unknownVariant (token : String) (allowed : List String)
  | missingField (name : String)
  | repeatedField (name : String)

/-- A cause, what was left of the text, and how many bytes of that still count as read. -/
structure Fault where
  cause : Cause
  rest : List Char
  extra : Nat

/-- A fault that the next byte shows, which counts as read. -/
def Fault.next (cause : Cause) (rest : List Char) : Fault := ⟨cause, rest, 1⟩

/-- A fault of what has been read. -/
def Fault.past (cause : Cause) (rest : List Char) : Fault := ⟨cause, rest, 0⟩

/-- A cause with the line and the column at which it shows. -/
structure Error where
  cause : Cause
  line : Nat
  column : Nat

def bytes (s : List Char) : List UInt8 := s.flatMap String.utf8EncodeChar

/-- The lines are counted from 1 and the bytes since the last line feed from 0. -/
def Fault.locate (text : List Char) (fault : Fault) : Error :=
  let all := bytes text
  let read := all.take (all.length - (bytes fault.rest).length + fault.extra)
  let feed : UInt8 := 10
  ⟨fault.cause, read.count feed + 1, (read.reverse.takeWhile (· ≠ feed)).length⟩

/-! ### Texts -/

def Found.text : Found → String
  | .null => "null"
  | .boolean value => "boolean `" ++ (if value then "true" else "false") ++ "`"
  | .integer value => "integer `" ++ toString value ++ "`"
  | .float negative magnitude => "floating point `" ++ (if negative then "-" else "") ++ magnitude.text ++ "`"
  | .string text => "string " ++ quoted text
  | .sequence => "sequence"
  | .map => "map"

def Expected.text : Expected → String
  | .string => "a string"
  | .sequence => "a sequence"
  | .record name => "struct " ++ name
  | .null => "unit"

/-- A list of allowed tokens: one, two, or more. -/
def alternatives (allowed : List String) : String :=
  let ticked := allowed.map fun token => "`" ++ token ++ "`"
  match ticked with
  | [first, second] => first ++ " or " ++ second
  | [only] => only
  | _ => "one of " ++ ", ".intercalate ticked

def Cause.text : Cause → String
  | .endInValue => "EOF while parsing a value"
  | .endInList => "EOF while parsing a list"
  | .endInObject => "EOF while parsing an object"
  | .endInString => "EOF while parsing a string"
  | .noColon => "expected `:`"
  | .noListEnd => "expected `,` or `]`"
  | .noObjectEnd => "expected `,` or `\x7d`"
  | .noValue => "expected value"
  | .badWord => "expected ident"
  | .badNumber => "invalid number"
  | .badEscape => "invalid escape"
  | .loneSurrogate => "lone leading surrogate in hex escape"
  | .endOfHexEscape => "unexpected end of hex escape"
  | .controlCharacter => "control character (\\u0000-\\u001F) found while parsing a string"
  | .numberOutOfRange => "number out of range"
  | .keyNotString => "key must be a string"
  | .trailingComma => "trailing comma"
  | .trailingText => "trailing characters"
  | .wrongType found expected => "invalid type: " ++ found.text ++ ", expected " ++ expected.text
  | .wrongLength length record fields =>
    "invalid length " ++ toString length ++ ", expected struct " ++ record ++ " with " ++ toString fields ++ " elements"
  | .unknownVariant token allowed => "unknown variant `" ++ token ++ "`, expected " ++ alternatives allowed
  | .missingField name => "missing field `" ++ name ++ "`"
  | .repeatedField name => "duplicate field `" ++ name ++ "`"

def Error.message (e : Error) : String :=
  e.cause.text ++ " at line " ++ toString e.line ++ " column " ++ toString e.column

end ErDiagram.Json
