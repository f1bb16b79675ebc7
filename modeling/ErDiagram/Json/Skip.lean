import ErDiagram.Json.Scalar

/-! Values that are skipped: those of members that no record has. Their syntax is checked, but neither the range of
    numbers nor the surrogates in strings. The arrays and objects that are open are held in a list, so that they may
    nest to any depth. -/

namespace ErDiagram.Json
open Character

/-! ### Numbers -/

/-- What follows the exponent of a number, after its `e`. -/
def skipExponent (s : List Char) : Except Fault (List Char) :=
  let s :=
    match s with
    | '+' :: s | '-' :: s => s
    | s => s
  if startsWithDigit s then .ok (skipDigits s) else .error (.next .badNumber s)

def skipExponentOrEnd (s : List Char) : Except Fault (List Char) :=
  match s with
  | 'e' :: s | 'E' :: s => skipExponent s
  | s => .ok s

/-- What follows a number, after its sign. -/
def skipNumber (s : List Char) : Except Fault (List Char) :=
  match s with
  | '0' :: rest => if startsWithDigit rest then .error (.next .badNumber rest) else tail rest
  | _ => if startsWithDigit s then tail (skipDigits s) else .error (.next .badNumber s)
where
  /-- What follows the integer digits. -/
  tail (s : List Char) : Except Fault (List Char) :=
    match s with
    | '.' :: s => if startsWithDigit s then skipExponentOrEnd (skipDigits s) else .error (.next .badNumber s)
    | s => skipExponentOrEnd s

theorem length_skipDigits_le (s : List Char) : (skipDigits s).length ≤ s.length :=
  (List.dropWhile_sublist _).length_le

theorem length_skipDigits_lt {s : List Char} (h : startsWithDigit s = true) : (skipDigits s).length < s.length := by
  cases s with
  | nil => simp [startsWithDigit] at h
  | cons c s =>
    have digit : isDigit c = true := h
    rw [skipDigits, List.dropWhile_cons_of_pos digit, List.length_cons]
    exact Nat.lt_succ_of_le (List.dropWhile_sublist _).length_le

theorem skipExponent_le {s rest : List Char} (h : skipExponent s = .ok rest) : rest.length ≤ s.length := by
  unfold skipExponent at h
  grind [length_skipDigits_le]

theorem skipExponentOrEnd_le {s rest : List Char} (h : skipExponentOrEnd s = .ok rest) :
    rest.length ≤ s.length := by
  unfold skipExponentOrEnd at h
  split at h <;> grind [→ skipExponent_le]

theorem skipNumber_shorter {s rest : List Char} (h : skipNumber s = .ok rest) : rest.length < s.length := by
  unfold skipNumber skipNumber.tail at h
  repeat' split at h
  all_goals grind [→ skipExponentOrEnd_le, → length_skipDigits_lt, length_skipDigits_le]

/-! ### Scalars -/

/-- What follows a scalar, whose first character is given. -/
def skipScalar (c : Char) (rest : List Char) : Except Fault (List Char) :=
  if c = 'n' then wordTail ['u', 'l', 'l'] rest
  else if c = 't' then wordTail ['r', 'u', 'e'] rest
  else if c = 'f' then wordTail ['a', 'l', 's', 'e'] rest
  else if c = '-' then skipNumber rest
  else if isDigit c then skipNumber (c :: rest)
  else if c = '"' then skipCharacters rest
  else .error (.next .noValue (c :: rest))

theorem skipScalar_shorter {c : Char} {s rest : List Char} (h : skipScalar c s = .ok rest) :
    rest.length < (c :: s).length := by
  unfold skipScalar at h
  repeat' split at h
  all_goals grind [wordTail_eq_ok_iff, → skipNumber_shorter, → skipCharacters_shorter]

/-! ### Values -/

inductive Bracket where
  | list
  | object
  deriving DecidableEq

def Bracket.opening? (c : Char) : Option Bracket :=
  if c = '[' then some .list else if c = '{' then some .object else none

def Bracket.closing : Bracket → Char
  | .list => ']'
  | .object => '}'

/-- The fault of an open bracket at the end of the text. -/
def Bracket.ended : Bracket → Cause
  | .list => .endInList
  | .object => .endInObject

/-- The fault of an open bracket where neither a comma nor its end follows an item. -/
def Bracket.notEnded : Bracket → Cause
  | .list => .noListEnd
  | .object => .noObjectEnd

/-- What is to come: a value, the name of a member, or what follows a value. -/
inductive Pending where
  | value
  | name
  | next

/-- What each item of a bracket begins with. -/
def Bracket.item : Bracket → Pending
  | .list => .value
  | .object => .name

/-- What follows a name that is skipped and its colon. -/
def skipName (s : List Char) : Except Fault (List Char) :=
  match skipSpacing s with
  | [] => .error (.next .endInObject [])
  | '"' :: rest =>
    match skipCharacters rest with
    | .error fault => .error fault
    | .ok rest =>
      match skipSpacing rest with
      | [] => .error (.next .endInObject [])
      | ':' :: rest => .ok rest
      | rest => .error (.next .noColon rest)
  | s => .error (.next .keyNotString s)

theorem skipName_shorter {s rest : List Char} (h : skipName s = .ok rest) : rest.length < s.length := by
  unfold skipName at h
  repeat' split at h
  all_goals grind [→ length_lt_of_skipSpacing, → skipCharacters_shorter]

/-- Skips what is pending, and then everything up to the end of the outermost open bracket. -/
def skip (pending : Pending) (opened : List Bracket) (s : List Char) : Except Fault (List Char) :=
  match pending with
  | .value =>
    match _h : skipSpacing s with
    | [] => .error (.next .endInValue [])
    | c :: rest =>
      match Bracket.opening? c with
      | some bracket =>
        match _inside : skipSpacing rest with
        | [] => .error (.next bracket.ended [])
        | c :: after =>
          if c = bracket.closing then skip .next opened after else skip bracket.item (bracket :: opened) rest
      | none =>
        match _scalar : skipScalar c rest with
        | .error fault => .error fault
        | .ok rest => skip .next opened rest
  | .name =>
    match _h : skipName s with
    | .error fault => .error fault
    | .ok rest => skip .value opened rest
  | .next =>
    match opened with
    | [] => .ok s
    | bracket :: outer =>
      match _h : skipSpacing s with
      | [] => .error (.next bracket.ended [])
      | c :: rest =>
        if c = bracket.closing then skip .next outer rest
        else if c = ',' then skip bracket.item opened rest
        else .error (.next bracket.notEnded (c :: rest))
termination_by s.length
decreasing_by all_goals grind [→ length_lt_of_skipSpacing, → skipScalar_shorter, → skipName_shorter]

/-- Nothing is given back. -/
theorem skip_le {pending : Pending} {opened : List Bracket} {s rest : List Char}
    (h : skip pending opened s = .ok rest) : rest.length ≤ s.length := by
  fun_induction skip pending opened s <;>
    grind [→ length_lt_of_skipSpacing, → skipScalar_shorter, → skipName_shorter]

/-- Skips one value. -/
def skipValue (s : List Char) : Except Fault (List Char) := skip .value [] s

theorem skipValue_le {s rest : List Char} (h : skipValue s = .ok rest) : rest.length ≤ s.length := skip_le h

end ErDiagram.Json
