import Mathlib.Data.List.TakeWhile
import WindowPlacement.Expression.Token

/-!
# Tokens of a text

`Tokenizes` says what the tokens of a text are without saying how they are found: blanks, then
a parenthesis or a word that goes on as far as it can, and so on to the end of the text.
Every text has exactly one list of tokens, and it is the one that `tokens` finds.
-/

namespace WindowPlacement

namespace Text

theorem trimLeft_append {blanks s : List Char} (skipped : ∀ c ∈ blanks, isBlank c = true)
    (starts : ∀ c ∈ s.head?, isBlank c = false) : trimLeft (blanks ++ s) = s := by
  rw [trimLeft, List.dropWhile_append_of_pos skipped]
  cases s with
  | nil => rfl
  | cons c rest => exact List.dropWhile_cons_of_neg (by simp [starts c rfl])

theorem trimLeft_eq_nil_iff {s : List Char} :
    trimLeft s = [] ↔ ∀ c ∈ s, isBlank c = true :=
  List.dropWhile_eq_nil_iff

theorem trimLeft_eq_self {s : List Char} (starts : ∀ c ∈ s.head?, isBlank c = false) :
    trimLeft s = s :=
  trimLeft_append (List.forall_mem_nil _) starts

@[simp]
theorem trimLeft_trimLeft (s : List Char) : trimLeft (trimLeft s) = trimLeft s := by
  apply trimLeft_eq_self
  cases split : trimLeft s with
  | nil => simp
  | cons c rest => simpa using isBlank_eq_false_of_trimLeft_eq_cons split

end Text

namespace Expression

/-- The tokens of a text: after blanks comes a parenthesis, or a word that starts with no
blank and goes on up to the next character that ends words. -/
inductive Tokenizes : List Char → List Token → Prop
  | finish {blanks : List Char} (skipped : ∀ c ∈ blanks, Text.isBlank c = true) :
      Tokenizes blanks []
  | opening {blanks rest : List Char} {tokens : List Token}
      (skipped : ∀ c ∈ blanks, Text.isBlank c = true) (behind : Tokenizes rest tokens) :
      Tokenizes (blanks ++ '(' :: rest) (.opening :: tokens)
  | closing {blanks rest : List Char} {tokens : List Token}
      (skipped : ∀ c ∈ blanks, Text.isBlank c = true) (behind : Tokenizes rest tokens) :
      Tokenizes (blanks ++ ')' :: rest) (.closing :: tokens)
  | word {blanks letters rest : List Char} {first : Char} {tokens : List Token}
      (skipped : ∀ c ∈ blanks, Text.isBlank c = true) (starts : Text.isBlank first = false)
      (within : ∀ c ∈ first :: letters, endsWord c = false)
      (ends : ∀ c ∈ rest.head?, endsWord c = true) (behind : Tokenizes rest tokens) :
      Tokenizes (blanks ++ first :: letters ++ rest) (.word (first :: letters) :: tokens)

theorem lexemes_of_trimLeft_eq_nil {s : List Char} (split : Text.trimLeft s = []) :
    lexemes s = [] := by
  rw [lexemes]
  split <;> simp_all

theorem lexemes_of_trimLeft_eq_cons {s rest : List Char} {c : Char}
    (split : Text.trimLeft s = c :: rest) :
    lexemes s = ⟨(firstToken c rest).1, Text.trimLeft (firstToken c rest).2⟩ ::
      lexemes (firstToken c rest).2 := by
  rw [lexemes]
  split <;> simp_all

/-- The tokens behind a token are those of the text that it remembers. -/
theorem lexemes_trimLeft (s : List Char) : lexemes (Text.trimLeft s) = lexemes s := by
  cases split : Text.trimLeft s with
  | nil => rw [lexemes_of_trimLeft_eq_nil split, lexemes_of_trimLeft_eq_nil rfl]
  | cons c rest =>
    rw [lexemes_of_trimLeft_eq_cons split]
    refine lexemes_of_trimLeft_eq_cons ?_
    rw [← split, Text.trimLeft_trimLeft, split]

theorem firstToken_opening (rest : List Char) : firstToken '(' rest = (.opening, rest) :=
  rfl

theorem firstToken_closing (rest : List Char) : firstToken ')' rest = (.closing, rest) :=
  rfl

/-- A word is taken as a whole when what is behind it ends words. -/
theorem firstToken_word {first : Char} {letters rest : List Char}
    (within : ∀ c ∈ first :: letters, endsWord c = false)
    (ends : ∀ c ∈ rest.head?, endsWord c = true) :
    firstToken first (letters ++ rest) = (.word (first :: letters), rest) := by
  have first_within := within first (by simp)
  have not_opening : first ≠ '(' := by rintro rfl; simp [endsWord] at first_within
  have not_closing : first ≠ ')' := by rintro rfl; simp [endsWord] at first_within
  have inside : ∀ c ∈ letters, (!endsWord c) = true := by
    intro c member
    simp [within c (List.mem_cons_of_mem _ member)]
  rw [firstToken, if_neg not_opening, if_neg not_closing,
    List.takeWhile_append_of_pos inside, List.dropWhile_append_of_pos inside]
  cases rest with
  | nil => simp
  | cons c behind =>
    have c_ends : endsWord c = true := ends c rfl
    simp [c_ends]

/-- A text starts with a token, with no blanks in front of it; the second text is behind it. -/
inductive StartsWith : List Char → Token → List Char → Prop
  | opening (rest : List Char) : StartsWith ('(' :: rest) .opening rest
  | closing (rest : List Char) : StartsWith (')' :: rest) .closing rest
  | word {first : Char} {letters rest : List Char} (starts : Text.isBlank first = false)
      (within : ∀ c ∈ first :: letters, endsWord c = false)
      (ends : ∀ c ∈ rest.head?, endsWord c = true) :
      StartsWith (first :: letters ++ rest) (.word (first :: letters)) rest

theorem startsWith_firstToken {c : Char} (starts : Text.isBlank c = false) (rest : List Char) :
    StartsWith (c :: rest) (firstToken c rest).1 (firstToken c rest).2 := by
  unfold firstToken
  split_ifs with is_opening is_closing
  · subst is_opening
    exact .opening rest
  · subst is_closing
    exact .closing rest
  · have c_within : endsWord c = false := by
      have not_break : ∀ d, Text.isBlank d = true → c ≠ d := by
        rintro d blank rfl
        simp [blank] at starts
      simp [endsWord, is_opening, is_closing, not_break ' ' rfl, not_break '\t' rfl,
        not_break '\r' rfl, not_break '\n' rfl]
    have split : c :: rest =
        (c :: rest.takeWhile fun d => !endsWord d) ++ rest.dropWhile fun d => !endsWord d := by
      rw [List.cons_append, List.takeWhile_append_dropWhile]
    conv => arg 1; rw [split]
    refine .word starts ?_ ?_
    · intro d member
      rcases List.mem_cons.mp member with rfl | inside
      · exact c_within
      · simpa using List.mem_takeWhile_imp inside
    · intro d head
      have stop := List.head?_dropWhile_not (fun d => !endsWord d) rest
      rw [Option.mem_def.mp head] at stop
      simpa using stop

theorem Tokenizes.of_startsWith {blanks s rest : List Char} {token : Token} {tokens : List Token}
    (skipped : ∀ c ∈ blanks, Text.isBlank c = true) (first : StartsWith s token rest)
    (behind : Tokenizes rest tokens) : Tokenizes (blanks ++ s) (token :: tokens) := by
  cases first with
  | opening => exact .opening skipped behind
  | closing => exact .closing skipped behind
  | word starts within ends =>
    rw [← List.append_assoc]
    exact .word skipped starts within ends behind

theorem tokenizes_tokens (s : List Char) : Tokenizes s (tokens s) := by
  unfold tokens
  induction s using lexemes.induct with
  | case1 s split =>
    rw [lexemes_of_trimLeft_eq_nil split]
    exact .finish (Text.trimLeft_eq_nil_iff.mp split)
  | case2 s c rest split behind =>
    rw [lexemes_of_trimLeft_eq_cons split, List.map_cons]
    have whole := Text.takeWhile_append_trimLeft s
    rw [split] at whole
    rw [← whole]
    exact .of_startsWith (fun d member => List.mem_takeWhile_imp member)
      (startsWith_firstToken (Text.isBlank_eq_false_of_trimLeft_eq_cons split) rest) behind

theorem Tokenizes.eq_tokens {s : List Char} {found : List Token} (tokenized : Tokenizes s found) :
    found = tokens s := by
  induction tokenized with
  | finish skipped =>
    rw [tokens, lexemes_of_trimLeft_eq_nil (Text.trimLeft_eq_nil_iff.mpr skipped), List.map_nil]
  | opening skipped _ behind =>
    rw [tokens, lexemes_of_trimLeft_eq_cons (Text.trimLeft_append skipped (by simp; rfl)),
      firstToken_opening, List.map_cons, behind, tokens]
  | closing skipped _ behind =>
    rw [tokens, lexemes_of_trimLeft_eq_cons (Text.trimLeft_append skipped (by simp; rfl)),
      firstToken_closing, List.map_cons, behind, tokens]
  | word skipped starts within ends _ behind =>
    rw [List.append_assoc, List.cons_append, tokens,
      lexemes_of_trimLeft_eq_cons (Text.trimLeft_append skipped (by simpa using starts)),
      firstToken_word within ends, List.map_cons, behind, tokens]

/-- Every text has exactly one list of tokens, and `tokens` finds it. -/
theorem tokenizes_iff {s : List Char} {found : List Token} :
    Tokenizes s found ↔ found = tokens s := by
  constructor
  · exact Tokenizes.eq_tokens
  · rintro rfl
    exact tokenizes_tokens s

end Expression

end WindowPlacement
