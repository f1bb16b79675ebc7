/-! White space. Two sets are in use: the four spacing characters that separate words, and the blanks, which are all
    characters with the Unicode property White_Space. Every spacing character is blank. -/

namespace ErDiagram.Character

/-- Space, tab, line feed and carriage return. -/
def isSpacing (c : Char) : Bool := c = ' ' || c = '\t' || c = '\n' || c = '\r'

/-- A character with the property White_Space. -/
def isBlank (c : Char) : Bool :=
  isSpacing c || c = '\x0b' || c = '\x0c' || c = '\u0085' || c = '\u00a0' || c = '\u1680' ||
    ('\u2000' ≤ c && c ≤ '\u200a') || c = '\u2028' || c = '\u2029' || c = '\u202f' || c = '\u205f' || c = '\u3000'

theorem isBlank_of_isSpacing {c : Char} (h : isSpacing c = true) : isBlank c = true := by
  simp [isBlank, h]

def skipSpacing (s : List Char) : List Char := s.dropWhile isSpacing

theorem length_skipSpacing_le (s : List Char) : (skipSpacing s).length ≤ s.length :=
  (List.dropWhile_sublist _).length_le

theorem length_lt_of_skipSpacing {s rest : List Char} {c : Char} (h : skipSpacing s = c :: rest) :
    rest.length < s.length := by
  have shorter := length_skipSpacing_le s
  rw [h, List.length_cons] at shorter
  omega

def trimStart (s : List Char) : List Char := s.dropWhile isBlank

def trimEnd : List Char → List Char
  | [] => []
  | c :: s =>
    match trimEnd s with
    | [] => if isBlank c then [] else [c]
    | kept => c :: kept

def trim (s : List Char) : List Char := trimEnd (trimStart s)

end ErDiagram.Character
