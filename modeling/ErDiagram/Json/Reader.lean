import ErDiagram.Json.Scalar
import ErDiagram.Vocabulary

/-! Readers of JSON values. A reader takes a value from the start of a text, after spacing, and leaves a shorter text.
    It knows what it expects, and it stops at the first fault in the order of the text. -/

namespace ErDiagram.Json
open Character

structure Reader (α : Type) where
  read : List Char → Except Fault (α × List Char)
  shorter : ∀ {s rest a}, read s = .ok (a, rest) → rest.length < s.length

/-- Reads another value in place of the one that is written. -/
def Reader.map {α β : Type} (f : α → β) (r : Reader α) : Reader β where
  read s :=
    match r.read s with
    | .ok (a, rest) => .ok (f a, rest)
    | .error fault => .error fault
  shorter h := by
    split at h <;> grind [→ Reader.shorter]

def Reader.decode {α : Type} (r : Reader α) (text : String) : Except Error α :=
  match r.read text.toList with
  | .error fault => .error (fault.locate text.toList)
  | .ok (a, rest) =>
    match skipSpacing rest with
    | [] => .ok a
    | rest => .error ((Fault.next .trailingText rest).locate text.toList)

/-! ### Strings and tokens -/

def readString (s : List Char) : Except Fault (String × List Char) :=
  match skipSpacing s with
  | '"' :: rest =>
    match characters rest with
    | .ok (text, rest) => .ok (String.ofList text, rest)
    | .error fault => .error fault
  | s => .error (wrongType .string s)

theorem readString_shorter {s rest : List Char} {text : String} (h : readString s = .ok (text, rest)) :
    rest.length < s.length := by
  unfold readString at h
  repeat' split at h
  all_goals grind [→ length_lt_of_skipSpacing, → characters_shorter]

def Reader.string : Reader String := ⟨readString, readString_shorter⟩

def readColon (s : List Char) : Except Fault (List Char) :=
  match skipSpacing s with
  | [] => .error (.next .endInObject [])
  | ':' :: rest => .ok rest
  | s => .error (.next .noColon s)

theorem readColon_shorter {s rest : List Char} (h : readColon s = .ok rest) : rest.length < s.length := by
  unfold readColon at h
  split at h <;> grind [→ length_lt_of_skipSpacing]

/-- A token of a vocabulary between quotes, after the opening one. -/
def readToken (α : Type) [Vocabulary α] (s : List Char) : Except Fault (α × List Char) :=
  match characters s with
  | .error fault => .error fault
  | .ok (text, rest) =>
    match Vocabulary.ofToken? α (String.ofList text) with
    | some a => .ok (a, rest)
    | none => .error (.past (.unknownVariant (String.ofList text) (Vocabulary.tokens α)) rest)

theorem readToken_shorter {α : Type} [Vocabulary α] {s rest : List Char} {a : α}
    (h : readToken α s = .ok (a, rest)) : rest.length < s.length := by
  unfold readToken at h
  repeat' split at h
  all_goals grind [→ characters_shorter]

def readNull (s : List Char) : Except Fault (List Char) :=
  match skipSpacing s with
  | 'n' :: rest => wordTail ['u', 'l', 'l'] rest
  | s => .error (wrongType .null s)

theorem readNull_shorter {s rest : List Char} (h : readNull s = .ok rest) : rest.length < s.length := by
  unfold readNull at h
  split at h <;> grind [→ length_lt_of_skipSpacing, wordTail_eq_ok_iff]

/-- The opening quote of the name, in an object that stands for a token. The object must not be empty. -/
def readTokenStart (s : List Char) : Except Fault (List Char) :=
  match skipSpacing s with
  | [] => .error (.next .endInObject [])
  | '"' :: rest => .ok rest
  | '}' :: rest => .error (.next .noValue ('}' :: rest))
  | s => .error (.next .keyNotString s)

theorem readTokenStart_shorter {s rest : List Char} (h : readTokenStart s = .ok rest) : rest.length < s.length := by
  unfold readTokenStart at h
  split at h <;> grind [→ length_lt_of_skipSpacing]

/-- The end of an object that stands for a token. -/
def readTokenEnd (s : List Char) : Except Fault (List Char) :=
  match skipSpacing s with
  | [] => .error (.past .endInObject [])
  | '}' :: rest => .ok rest
  | s => .error (.past .noValue s)

theorem readTokenEnd_shorter {s rest : List Char} (h : readTokenEnd s = .ok rest) : rest.length < s.length := by
  unfold readTokenEnd at h
  split at h <;> grind [→ length_lt_of_skipSpacing]

/-- A value of a vocabulary: its token as a string, or an object with the token as its one name and null as the
    value. -/
def readVariant (α : Type) [Vocabulary α] (s : List Char) : Except Fault (α × List Char) :=
  match skipSpacing s with
  | [] => .error (.next .endInValue [])
  | '"' :: rest => readToken α rest
  | '{' :: rest => do
    let (a, rest) ← readToken α (← readTokenStart rest)
    return (a, ← readTokenEnd (← readNull (← readColon rest)))
  | s => .error (.next .noValue s)

theorem readVariant_shorter {α : Type} [Vocabulary α] {s rest : List Char} {a : α}
    (h : readVariant α s = .ok (a, rest)) : rest.length < s.length := by
  unfold readVariant at h
  simp only [bind, Except.bind, pure, Except.pure] at h
  repeat' split at h
  all_goals grind [→ length_lt_of_skipSpacing, → readTokenStart_shorter, → readToken_shorter, → readColon_shorter,
    → readNull_shorter, → readTokenEnd_shorter]

def Reader.variant (α : Type) [Vocabulary α] : Reader α := ⟨readVariant α, readVariant_shorter⟩

/-! ### Null for a default -/

def readOrNull {α : Type} (default : α) (r : Reader α) (s : List Char) : Except Fault (α × List Char) :=
  match skipSpacing s with
  | 'n' :: rest =>
    match wordTail ['u', 'l', 'l'] rest with
    | .ok rest => .ok (default, rest)
    | .error fault => .error fault
  | _ => r.read s

theorem readOrNull_shorter {α : Type} {default : α} {r : Reader α} {s rest : List Char} {a : α}
    (h : readOrNull default r s = .ok (a, rest)) : rest.length < s.length := by
  have inner := @r.shorter
  unfold readOrNull at h
  repeat' split at h
  all_goals grind [→ length_lt_of_skipSpacing, wordTail_eq_ok_iff]

def Reader.orNull {α : Type} (r : Reader α) (default : α) : Reader α := ⟨readOrNull default r, readOrNull_shorter⟩

/-! ### Lists -/

/-- What follows in an array or an object: an item, which the text starts with, or the end, which the text is after. -/
inductive Next where
  | item (s : List Char)
  | ended (rest : List Char)

/-- The next item of an array. All but the first follow a comma. -/
def nextItem (first : Bool) (s : List Char) : Except Fault Next :=
  match skipSpacing s with
  | [] => .error (.next .endInList [])
  | ']' :: rest => .ok (.ended rest)
  | c :: rest =>
    if first then .ok (.item (c :: rest))
    else if c = ',' then
      match skipSpacing rest with
      | [] => .error (.next .endInValue [])
      | ']' :: rest => .error (.next .trailingComma (']' :: rest))
      | s => .ok (.item s)
    else .error (.next .noListEnd (c :: rest))

theorem nextItem_le {first : Bool} {s rest : List Char} (h : nextItem first s = .ok (.item rest)) :
    rest.length ≤ s.length := by
  have start := length_skipSpacing_le s
  unfold nextItem at h
  repeat' split at h
  all_goals grind [length_skipSpacing_le]

theorem nextItem_ended_shorter {first : Bool} {s rest : List Char} (h : nextItem first s = .ok (.ended rest)) :
    rest.length < s.length := by
  unfold nextItem at h
  repeat' split at h
  all_goals grind [→ length_lt_of_skipSpacing]

/-- The items of an array that are left, up to the closing bracket. -/
def readItems {α : Type} (r : Reader α) (first : Bool) (s : List Char) : Except Fault (List α × List Char) :=
  match _next : nextItem first s with
  | .error fault => .error fault
  | .ok (.ended rest) => .ok ([], rest)
  | .ok (.item s) =>
    match _item : r.read s with
    | .error fault => .error fault
    | .ok (a, rest) =>
      match readItems r false rest with
      | .error fault => .error fault
      | .ok (items, rest) => .ok (a :: items, rest)
termination_by s.length
decreasing_by
  have := nextItem_le _next
  have := r.shorter _item
  omega

theorem readItems_shorter {α : Type} {r : Reader α} {first : Bool} {s rest : List Char} {items : List α}
    (h : readItems r first s = .ok (items, rest)) : rest.length < s.length := by
  have inner := @r.shorter
  fun_induction readItems r first s generalizing items rest <;> grind [→ nextItem_le, → nextItem_ended_shorter]

def readList {α : Type} (r : Reader α) (s : List Char) : Except Fault (List α × List Char) :=
  match skipSpacing s with
  | '[' :: rest => readItems r true rest
  | s => .error (wrongType .sequence s)

theorem readList_shorter {α : Type} {r : Reader α} {s rest : List Char} {items : List α}
    (h : readList r s = .ok (items, rest)) : rest.length < s.length := by
  unfold readList at h
  split at h <;> grind [→ length_lt_of_skipSpacing, → readItems_shorter]

def Reader.list {α : Type} (r : Reader α) : Reader (List α) := ⟨readList r, readList_shorter⟩

end ErDiagram.Json
