import ErDiagram.Json.Reader
import ErDiagram.Json.Skip

/-! Readers of records. A record is written as an object, whose members may come in any order and among others that are
    skipped, or as an array of its fields in their order, which may end early. It is read into parts, one for each
    field, and put together at the end. -/

namespace ErDiagram.Json
open Character

/-- A field of a record with the parts `σ`: whether the parts have it, and how to read it into them. -/
structure Field (σ : Type) where
  name : String
  isRead : σ → Bool
  value : Reader (σ → σ)

/-- A field with its part, which is absent until it is read. -/
def Field.part {σ α : Type} (name : String) (get : σ → Option α) (put : α → σ → σ) (value : Reader α) : Field σ :=
  ⟨name, fun parts => (get parts).isSome, value.map put⟩

def requiredPart {α : Type} (name : String) : Option α → Except String α
  | some a => .ok a
  | none => .error name

/-- A kind of record. Its parts are put together unless a required field is missing, which is named. -/
structure Record (σ α : Type) where
  name : String
  fields : List (Field σ)
  start : σ
  finish : σ → Except String α

/-! ### Objects -/

/-- The name of the next member of an object, after its opening quote. All but the first follow a comma. -/
def nextName (first : Bool) (s : List Char) : Except Fault Next :=
  match skipSpacing s with
  | [] => .error (.next .endInObject [])
  | '}' :: rest => .ok (.ended rest)
  | c :: rest =>
    if first then
      if c = '"' then .ok (.item rest) else .error (.next .keyNotString (c :: rest))
    else if c = ',' then
      match skipSpacing rest with
      | [] => .error (.next .endInValue [])
      | '}' :: rest => .error (.next .trailingComma ('}' :: rest))
      | '"' :: rest => .ok (.item rest)
      | s => .error (.next .keyNotString s)
    else .error (.next .noObjectEnd (c :: rest))

theorem nextName_shorter {first : Bool} {s rest : List Char} (h : nextName first s = .ok (.item rest)) :
    rest.length < s.length := by
  unfold nextName at h
  repeat' split at h
  all_goals grind [→ length_lt_of_skipSpacing]

theorem nextName_ended_shorter {first : Bool} {s rest : List Char} (h : nextName first s = .ok (.ended rest)) :
    rest.length < s.length := by
  unfold nextName at h
  repeat' split at h
  all_goals grind [→ length_lt_of_skipSpacing]

/-- A closing brace that follows is read too before a record gives up. -/
def skipBrace (s : List Char) : List Char :=
  match skipSpacing s with
  | '}' :: rest => rest
  | s => s

/-- One member of an object, after the opening quote of its name. -/
def readMember {σ : Type} (fields : List (Field σ)) (parts : σ) (s : List Char) : Except Fault (σ × List Char) :=
  match characters s with
  | .error fault => .error fault
  | .ok (name, rest) =>
    match fields.find? (·.name = String.ofList name) with
    | none =>
      match readColon rest with
      | .error fault => .error fault
      | .ok rest =>
        match skipValue rest with
        | .error fault => .error fault
        | .ok rest => .ok (parts, rest)
    | some field =>
      if field.isRead parts then .error (.past (.repeatedField field.name) (skipBrace rest))
      else
        match readColon rest with
        | .error fault => .error fault
        | .ok rest =>
          match field.value.read rest with
          | .error fault => .error fault
          | .ok (put, rest) => .ok (put parts, rest)

theorem readMember_shorter {σ : Type} {fields : List (Field σ)} {parts parts' : σ} {s rest : List Char}
    (h : readMember fields parts s = .ok (parts', rest)) : rest.length < s.length := by
  unfold readMember at h
  repeat' split at h
  all_goals grind [→ characters_shorter, → readColon_shorter, → skipValue_le, → Reader.shorter]

/-- The members of an object that are left, up to the closing brace. -/
def readMembers {σ : Type} (fields : List (Field σ)) (first : Bool) (parts : σ) (s : List Char) :
    Except Fault (σ × List Char) :=
  match _next : nextName first s with
  | .error fault => .error fault
  | .ok (.ended rest) => .ok (parts, rest)
  | .ok (.item s) =>
    match _member : readMember fields parts s with
    | .error fault => .error fault
    | .ok (parts, rest) => readMembers fields false parts rest
termination_by s.length
decreasing_by
  have := nextName_shorter _next
  have := readMember_shorter _member
  omega

theorem readMembers_shorter {σ : Type} {fields : List (Field σ)} {first : Bool} {parts parts' : σ}
    {s rest : List Char} (h : readMembers fields first parts s = .ok (parts', rest)) : rest.length < s.length := by
  fun_induction readMembers fields first parts s <;>
    grind [→ nextName_shorter, → nextName_ended_shorter, → readMember_shorter]

/-! ### Arrays -/

/-- The elements of an array that stand for the fields left, up to the closing bracket. Counts them. -/
def readElements {σ : Type} (parts : σ) (count : Nat) :
    List (Field σ) → List Char → Except Fault ((σ × Nat) × List Char)
  | [], s =>
    match skipSpacing s with
    | [] => .error (.next .endInList [])
    | ']' :: rest => .ok ((parts, count), rest)
    | ',' :: rest =>
      match skipSpacing rest with
      | ']' :: rest => .error (.next .trailingComma (']' :: rest))
      | rest => .error (.next .trailingText rest)
    | s => .error (.next .trailingText s)
  | field :: fields, s =>
    match nextItem (count = 0) s with
    | .error fault => .error fault
    | .ok (.ended rest) => .ok ((parts, count), rest)
    | .ok (.item s) =>
      match field.value.read s with
      | .error fault => .error fault
      | .ok (put, rest) => readElements (put parts) (count + 1) fields rest

theorem readElements_shorter {σ : Type} {parts : σ} {count : Nat} {fields : List (Field σ)} {s rest : List Char}
    {result : σ × Nat} (h : readElements parts count fields s = .ok (result, rest)) : rest.length < s.length := by
  fun_induction readElements parts count fields s <;>
    grind [→ length_lt_of_skipSpacing, → nextItem_le, → nextItem_ended_shorter, → Reader.shorter]

/-! ### Records -/

def readRecord {σ α : Type} (record : Record σ α) (s : List Char) : Except Fault (α × List Char) :=
  match skipSpacing s with
  | '{' :: rest =>
    match readMembers record.fields true record.start rest with
    | .error fault => .error fault
    | .ok (parts, rest) =>
      match record.finish parts with
      | .ok a => .ok (a, rest)
      | .error name => .error (.past (.missingField name) rest)
  | '[' :: rest =>
    match readElements record.start 0 record.fields rest with
    | .error fault => .error fault
    | .ok ((parts, count), rest) =>
      match record.finish parts with
      | .ok a => .ok (a, rest)
      | .error _ => .error (.past (.wrongLength count record.name record.fields.length) rest)
  | s => .error (wrongType (.record record.name) s)

theorem readRecord_shorter {σ α : Type} {record : Record σ α} {s rest : List Char} {a : α}
    (h : readRecord record s = .ok (a, rest)) : rest.length < s.length := by
  unfold readRecord at h
  repeat' split at h
  all_goals grind [→ length_lt_of_skipSpacing, → readMembers_shorter, → readElements_shorter]

def Record.reader {σ α : Type} (record : Record σ α) : Reader α := ⟨readRecord record, readRecord_shorter⟩

end ErDiagram.Json
