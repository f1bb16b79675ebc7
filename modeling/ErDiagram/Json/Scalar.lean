import ErDiagram.Character.Blank
import ErDiagram.Json.String

/-! The scalars of JSON besides strings: the words `null`, `true` and `false`, and numbers. No part of a diagram is a
    number, but where one stands in the wrong place the message tells its value, so numbers are read in full: integers
    of 64 bits exactly, all others in binary floating point. -/

namespace ErDiagram.Json
open Character Decimal

def wordTail : List Char → List Char → Except Fault (List Char)
  | [], s => .ok s
  | _ :: _, [] => .error (.past .endInValue [])
  | expected :: more, c :: s => if c = expected then wordTail more s else .error (.next .badWord (c :: s))

theorem wordTail_eq_ok_iff {word s rest : List Char} : wordTail word s = .ok rest ↔ s = word ++ rest := by
  fun_induction wordTail word s <;> simp_all

/-! ### Numbers -/

def isDigit (c : Char) : Bool := '0' ≤ c && c ≤ '9'

def digitValue (c : Char) : Nat := c.toNat - '0'.toNat

def startsWithDigit (s : List Char) : Bool := s.head?.any isDigit

def skipDigits (s : List Char) : List Char := s.dropWhile isDigit

def maxSignificand : Nat := Nat.pow 2 64 - 1

/-- Takes digits into the significand as long as it stays in its bounds. -/
def takeDigits (significand : Nat) : List Char → Nat × List Char
  | [] => (significand, [])
  | c :: s =>
    let next := significand * 10 + digitValue c
    if isDigit c && next ≤ maxSignificand then takeDigits next s else (significand, c :: s)

/-- The greatest exponent that is written out. -/
def maxExponentDigits : Nat := Nat.pow 2 31 - 1

/-- Reads the digits of an exponent, up to the digit that exceeds the bound. -/
def exponentDigits (exponent : Nat) : List Char → Option Nat × List Char
  | [] => (some exponent, [])
  | c :: s =>
    if isDigit c then
      let next := exponent * 10 + digitValue c
      if next ≤ maxExponentDigits then exponentDigits next s else (none, s)
    else (some exponent, c :: s)

/-- The number `significand * 10 ^ exponent`, if it is in range. -/
def scaled (negative : Bool) (significand : Nat) (exponent : Int) (rest : List Char) :
    Except Fault (Found × List Char) :=
  match Binary64.ofScientific? significand exponent with
  | some magnitude => .ok (.float negative magnitude, rest)
  | none => .error (.past .numberOutOfRange rest)

/-- The part of a number after its `e`. -/
def exponentPart (negative : Bool) (significand : Nat) (exponent : Int) (s : List Char) :
    Except Fault (Found × List Char) :=
  let (down, s) :=
    match s with
    | '+' :: s => (false, s)
    | '-' :: s => (true, s)
    | s => (false, s)
  match s with
  | [] => .error (.past .endInValue [])
  | c :: _ =>
    if !isDigit c then .error (.next .badNumber s)
    else
      match exponentDigits 0 s with
      | (some n, rest) => scaled negative significand (if down then exponent - n else exponent + n) rest
      | (none, rest) =>
        if significand ≠ 0 && !down then .error (.past .numberOutOfRange rest)
        else .ok (.float negative .zero, skipDigits rest)

/-- What follows the digits of a number that is no integer. -/
def exponentOrEnd (negative : Bool) (significand : Nat) (exponent : Int) (s : List Char) :
    Except Fault (Found × List Char) :=
  match s with
  | 'e' :: s | 'E' :: s => exponentPart negative significand exponent s
  | s => scaled negative significand exponent s

/-- The part of a number after its point. Digits that do not fit into the significand count for nothing. -/
def fraction (negative : Bool) (significand : Nat) (exponent : Int) (s : List Char) :
    Except Fault (Found × List Char) :=
  match s with
  | [] => .error (.past .endInValue [])
  | c :: _ =>
    if !isDigit c then .error (.next .badNumber s)
    else
      let (significand, rest) := takeDigits significand s
      exponentOrEnd negative significand (exponent - (s.length - rest.length : Nat)) (skipDigits rest)

/-- The greatest magnitude of a negative integer. -/
def maxNegative : Nat := Nat.pow 2 63

/-- An integer. Negative zero and what is below the 64-bit integers are no integers. -/
def integer (negative : Bool) (significand : Nat) (rest : List Char) : Except Fault (Found × List Char) :=
  if !negative then .ok (.integer significand, rest)
  else if significand = 0 || maxNegative < significand then scaled true significand 0 rest
  else .ok (.integer (-significand), rest)

/-- A number, after its sign. Each digit of an integer that does not fit multiplies by ten. -/
def number (negative : Bool) (s : List Char) : Except Fault (Found × List Char) :=
  match s with
  | [] => .error (.past .endInValue [])
  | '0' :: rest =>
    if startsWithDigit rest then .error (.next .badNumber rest) else tail 0 0 rest
  | c :: _ =>
    if !isDigit c then .error (.next .badNumber s)
    else
      let (significand, rest) := takeDigits 0 s
      tail significand (rest.length - (skipDigits rest).length) (skipDigits rest)
where
  /-- What follows the integer digits. -/
  tail (significand dropped : Nat) (s : List Char) : Except Fault (Found × List Char) :=
    match s with
    | '.' :: s => fraction negative significand dropped s
    | _ => if dropped = 0 && !(s.head?.any fun c => c = 'e' || c = 'E') then integer negative significand s
      else exponentOrEnd negative significand dropped s

/-! ### Values of the wrong type -/

/-- The fault of a value that cannot be what is expected. A scalar is read to its end, and may be faulty itself; of an
    array or an object nothing is read. -/
def wrongType (expected : Expected) (s : List Char) : Fault :=
  match s with
  | [] => .next .endInValue []
  | '[' :: _ => .past (.wrongType .sequence expected) s
  | '{' :: _ => .past (.wrongType .map expected) s
  | c :: rest =>
    let read : Except Fault (Found × List Char) :=
      if c = 'n' then (wordTail ['u', 'l', 'l'] rest).map (.null, ·)
      else if c = 't' then (wordTail ['r', 'u', 'e'] rest).map (.boolean true, ·)
      else if c = 'f' then (wordTail ['a', 'l', 's', 'e'] rest).map (.boolean false, ·)
      else if c = '-' then number true rest
      else if isDigit c then number false s
      else if c = '"' then (characters rest).map fun (text, rest) => (.string (String.ofList text), rest)
      else .error (.next .noValue s)
    match read with
    | .ok (found, rest) => .past (.wrongType found expected) rest
    | .error fault => fault

end ErDiagram.Json
