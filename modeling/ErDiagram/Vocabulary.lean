/-! Closed sets of values that are written as one token each. The written forms tell the values apart, so a token names
    at most one of them. -/

namespace ErDiagram

/-- The values of `α` and their tokens. The subject says what they are, for messages. -/
class Vocabulary (α : Type) where
  subject : String
  values : List α
  token : α → String
  complete : ∀ a, a ∈ values
  token_injective : ∀ {a b}, token a = token b → a = b

export Vocabulary (token)

/-- A token that names no value of its vocabulary. -/
structure UnknownToken where
  subject : String
  token : String
  deriving DecidableEq, Repr

def UnknownToken.message (unknown : UnknownToken) : String :=
  "unknown " ++ unknown.subject ++ " `" ++ unknown.token ++ "`"

namespace Vocabulary
variable {α : Type} [Vocabulary α]

/-- The value that a token names. -/
def ofToken? (α : Type) [Vocabulary α] (text : String) : Option α :=
  (values : List α).find? fun a => token a == text

theorem ofToken?_eq_some_iff {text : String} {a : α} : ofToken? α text = some a ↔ token a = text := by
  constructor
  · intro h
    simpa using List.find?_some h
  · rintro rfl
    cases found : ofToken? α (token a) with
    | none => simpa using List.find?_eq_none.1 found a (complete a)
    | some b => exact congrArg some (token_injective (by simpa using List.find?_some found))

@[simp] theorem ofToken?_token (a : α) : ofToken? α (token a) = some a := ofToken?_eq_some_iff.2 rfl

/-- Reads a token, or says that it is unknown. -/
def ofToken (α : Type) [Vocabulary α] (text : String) : Except UnknownToken α :=
  match ofToken? α text with
  | some a => .ok a
  | none => .error ⟨subject α, text⟩

/-- All tokens, in the order in which messages list them. -/
def tokens (α : Type) [Vocabulary α] : List String := (values : List α).map token

end Vocabulary
end ErDiagram
