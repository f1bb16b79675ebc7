import ErDiagram.Json.Fault

/-! JSON strings. A backslash starts an escape; the escape of a character beyond the 16-bit codes is a pair of
    surrogates. A string that is read must be free of lone surrogates; one that is skipped need not be. -/

namespace ErDiagram.Json

def hexDigit? (c : Char) : Option Nat :=
  if '0' ≤ c ∧ c ≤ '9' then some (c.toNat - '0'.toNat)
  else if 'a' ≤ c ∧ c ≤ 'f' then some (c.toNat - 'a'.toNat + 10)
  else if 'A' ≤ c ∧ c ≤ 'F' then some (c.toNat - 'A'.toNat + 10)
  else none

/-- The number of four hexadecimal digits. -/
def hexCode? (a b c d : Char) : Option Nat := do
  return ((← hexDigit? a) * 16 + (← hexDigit? b)) * 256 + ((← hexDigit? c) * 16 + (← hexDigit? d))

/-- Four hexadecimal digits. Four bytes are looked at, whatever characters they belong to. -/
def hexEscape (s : List Char) : Except Fault (Nat × List Char) :=
  match s with
  | a :: b :: c :: d :: rest =>
    match hexCode? a b c d with
    | some code => .ok (code, rest)
    | none => .error ⟨.badEscape, s, 4⟩
  | _ => .error (if 4 ≤ (bytes s).length then ⟨.badEscape, s, 4⟩ else .past .endInString [])

theorem hexEscape_shorter {s rest : List Char} {code : Nat} (h : hexEscape s = .ok (code, rest)) :
    rest.length < s.length := by
  unfold hexEscape at h
  split at h
  · split at h <;> cases h
    simp only [List.length_cons]
    omega
  · cases h

def isLeadingSurrogate (code : Nat) : Bool := 0xD800 ≤ code && code < 0xDC00

def isTrailingSurrogate (code : Nat) : Bool := 0xDC00 ≤ code && code < 0xE000

/-- The character of a pair of surrogates. -/
def ofSurrogates (leading trailing : Nat) : Char :=
  Char.ofNat ((leading - 0xD800) * 0x400 + (trailing - 0xDC00) + 0x10000)

/-- The second escape of a pair of surrogates. -/
def trailingEscape (leading : Nat) (s : List Char) : Except Fault (Char × List Char) :=
  match s with
  | [] | ['\\'] => .error (.past .endInString [])
  | '\\' :: 'u' :: rest =>
    match hexEscape rest with
    | .error fault => .error fault
    | .ok (code, rest) =>
      if isTrailingSurrogate code then .ok (ofSurrogates leading code, rest) else .error (.past .loneSurrogate rest)
  | '\\' :: rest => .error (.next .endOfHexEscape rest)
  | _ => .error (.next .endOfHexEscape s)

theorem trailingEscape_shorter {leading : Nat} {s rest : List Char} {c : Char}
    (h : trailingEscape leading s = .ok (c, rest)) : rest.length < s.length := by
  unfold trailingEscape at h
  split at h
  · cases h
  · cases h
  · split at h
    · cases h
    · next read =>
      split at h
      · simp only [Except.ok.injEq, Prod.mk.injEq] at h
        have digits := hexEscape_shorter read
        rw [← h.2, List.length_cons, List.length_cons]
        omega
      · cases h
  · cases h
  · cases h

/-- The character of a numeric escape, after its `u`. -/
def codeEscape (s : List Char) : Except Fault (Char × List Char) :=
  match hexEscape s with
  | .error fault => .error fault
  | .ok (code, rest) =>
    if isTrailingSurrogate code then .error (.past .loneSurrogate rest)
    else if isLeadingSurrogate code then trailingEscape code rest
    else .ok (Char.ofNat code, rest)

theorem codeEscape_shorter {s rest : List Char} {c : Char} (h : codeEscape s = .ok (c, rest)) :
    rest.length < s.length := by
  unfold codeEscape at h
  split at h
  · cases h
  · next read =>
    have digits := hexEscape_shorter read
    split at h
    · cases h
    · split at h
      · exact Nat.lt_trans (trailingEscape_shorter h) digits
      · cases h
        exact digits

/-- The character of an escape of one letter. -/
def letterEscape? (c : Char) : Option Char :=
  match c with
  | '"' => some '"'
  | '\\' => some '\\'
  | '/' => some '/'
  | 'b' => some '\x08'
  | 'f' => some '\x0c'
  | 'n' => some '\n'
  | 'r' => some '\r'
  | 't' => some '\t'
  | _ => none

/-- The character of an escape, after its backslash. -/
def escape (s : List Char) : Except Fault (Char × List Char) :=
  match s with
  | [] => .error (.past .endInString [])
  | 'u' :: rest => codeEscape rest
  | c :: rest =>
    match letterEscape? c with
    | some x => .ok (x, rest)
    | none => .error (.next .badEscape s)

theorem escape_shorter {s rest : List Char} {c : Char} (h : escape s = .ok (c, rest)) : rest.length < s.length := by
  unfold escape at h
  split at h
  · cases h
  · exact Nat.lt_trans (codeEscape_shorter h) (Nat.lt_succ_self _)
  · split at h <;> cases h
    exact Nat.lt_succ_self _

/-- Below the space: such a character must be escaped. -/
def isControl (c : Char) : Bool := c < ' '

/-- The characters of a string, after its opening quote, up to and with the closing one. -/
def characters (s : List Char) : Except Fault (List Char × List Char) :=
  match s with
  | [] => .error (.past .endInString [])
  | '"' :: rest => .ok ([], rest)
  | '\\' :: rest =>
    match _h : escape rest with
    | .error fault => .error fault
    | .ok (c, rest) =>
      match characters rest with
      | .error fault => .error fault
      | .ok (text, rest) => .ok (c :: text, rest)
  | c :: rest =>
    if isControl c then .error (.next .controlCharacter s)
    else
      match characters rest with
      | .error fault => .error fault
      | .ok (text, rest) => .ok (c :: text, rest)
termination_by s.length
decreasing_by
  · have := escape_shorter _h
    simp only [List.length_cons]
    omega
  · simp

theorem characters_shorter {s text rest : List Char} (h : characters s = .ok (text, rest)) :
    rest.length < s.length := by
  fun_induction characters s generalizing text rest with
  | case1 => cases h
  | case2 =>
    cases h
    exact Nat.lt_succ_self _
  | case3 => cases h
  | case4 => cases h
  | case5 _ _ _ escaped _ _ read ih =>
    cases h
    exact Nat.lt_trans (ih read) (Nat.lt_trans (escape_shorter escaped) (Nat.lt_succ_self _))
  | case6 => cases h
  | case7 => cases h
  | case8 _ _ _ _ _ _ _ read ih =>
    cases h
    exact Nat.lt_trans (ih read) (Nat.lt_succ_self _)

/-! ### Skipping -/

/-- What follows an escape that is skipped, after its backslash. -/
def skipEscape (s : List Char) : Except Fault (List Char) :=
  match s with
  | [] => .error (.past .endInString [])
  | 'u' :: rest =>
    match hexEscape rest with
    | .error fault => .error fault
    | .ok (_, rest) => .ok rest
  | c :: rest => if (letterEscape? c).isSome then .ok rest else .error (.next .badEscape s)

theorem skipEscape_shorter {s rest : List Char} (h : skipEscape s = .ok rest) : rest.length < s.length := by
  unfold skipEscape at h
  split at h
  · cases h
  · split at h
    · cases h
    · next read =>
      cases h
      exact Nat.lt_trans (hexEscape_shorter read) (Nat.lt_succ_self _)
  · split at h <;> cases h
    exact Nat.lt_succ_self _

/-- What follows a string that is skipped, after its opening quote. -/
def skipCharacters (s : List Char) : Except Fault (List Char) :=
  match s with
  | [] => .error (.past .endInString [])
  | '"' :: rest => .ok rest
  | '\\' :: rest =>
    match _h : skipEscape rest with
    | .error fault => .error fault
    | .ok rest => skipCharacters rest
  | c :: rest => if isControl c then .error (.past .controlCharacter s) else skipCharacters rest
termination_by s.length
decreasing_by
  · have := skipEscape_shorter _h
    simp only [List.length_cons]
    omega
  · simp

theorem skipCharacters_shorter {s rest : List Char} (h : skipCharacters s = .ok rest) : rest.length < s.length := by
  fun_induction skipCharacters s with
  | case1 => cases h
  | case2 =>
    cases h
    exact Nat.lt_succ_self _
  | case3 => cases h
  | case4 _ _ escaped ih => exact Nat.lt_trans (ih h) (Nat.lt_trans (skipEscape_shorter escaped) (Nat.lt_succ_self _))
  | case5 => cases h
  | case6 _ _ _ _ _ ih => exact Nat.lt_trans (ih h) (Nat.lt_succ_self _)

end ErDiagram.Json
