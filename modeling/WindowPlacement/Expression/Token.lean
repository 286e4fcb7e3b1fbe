import WindowPlacement.Text.Blank

/-!
# Tokens of expression text

Expression text consists of parentheses and words.  A word is as long as possible: it
ends at a parenthesis, a space, a tab or a line break, and at no other blank.  Every
token remembers the text behind it, so that a reader can say where it stopped.

`lexemes` splits a text from the front.  It skips the blanks in front of a token and
stops when nothing but blanks is left.
-/

namespace WindowPlacement.Expression

/-- A token of expression text. -/
inductive Token
  | opening
  | closing
  | word (spelling : List Char)
  deriving DecidableEq, Repr

/-- A token together with the text behind it, without the blanks in front. -/
structure Lexeme where
  token : Token
  rest : List Char
  deriving DecidableEq, Repr

def endsWord (c : Char) : Bool :=
  c == ' ' || c == '\t' || c == '\r' || c == '\n' || c == '(' || c == ')'

/-- The first token of a text that starts with the given character, and the text
behind the token. -/
def firstToken (c : Char) (rest : List Char) : Token × List Char :=
  if c = '(' then
    (.opening, rest)
  else if c = ')' then
    (.closing, rest)
  else
    (.word (c :: rest.takeWhile fun d => !endsWord d), rest.dropWhile fun d => !endsWord d)

/-- What is behind the first token is no longer than what is behind its first
character. -/
theorem length_firstToken_le (c : Char) (rest : List Char) :
    (firstToken c rest).2.length ≤ rest.length := by
  unfold firstToken
  split
  · exact Nat.le_refl _
  · split
    · exact Nat.le_refl _
    · exact (List.dropWhile_sublist _).length_le

/-- The tokens of a text, each with the text behind it. -/
def lexemes (s : List Char) : List Lexeme :=
  match _split : Text.trimLeft s with
  | [] => []
  | c :: rest =>
    ⟨(firstToken c rest).1, Text.trimLeft (firstToken c rest).2⟩ :: lexemes (firstToken c rest).2
termination_by s.length
decreasing_by
  have shorter := Text.length_trimLeft_le s
  have bound := length_firstToken_le c rest
  simp only [_split, List.length_cons] at shorter
  omega

def tokens (s : List Char) : List Token :=
  (lexemes s).map Lexeme.token

end WindowPlacement.Expression
