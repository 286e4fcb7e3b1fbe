import WindowPlacement.Proofs.Consumption

/-!
# Reading by descent

The grammar of expressions can be read from the top: an expression that is a call reads its
arguments by reading expressions, and each part is cut off the text at a byte.  Nothing in this
says that reading ends or that a text can be cut there.  Both hold: every argument takes something
off the text, so twice as many rounds as there are characters are enough, all cuts are made between
characters of the text, and the outcome is that of going through the tokens once.
-/

namespace WindowPlacement

namespace Text

def byteLength (s : List Char) : Nat :=
  (s.map Char.utf8Size).sum

/-- The parts of a text in front of a byte and from it on.  There are none if the byte is not in
the text, or within a character. -/
def splitAtByte? : List Char → Nat → Option (List Char × List Char)
  | s, 0 => some ([], s)
  | [], _ + 1 => none
  | c :: rest, count + 1 =>
    if c.utf8Size ≤ count + 1 then
      (splitAtByte? rest (count + 1 - c.utf8Size)).map fun parts => (c :: parts.1, parts.2)
    else
      none

/-- The byte at which the first character with a property starts. -/
def findByte? (p : Char → Bool) : List Char → Option Nat
  | [] => none
  | c :: rest => if p c then some 0 else (findByte? p rest).map (c.utf8Size + ·)

theorem splitAtByte?_append (front back : List Char) :
    splitAtByte? (front ++ back) (byteLength front) = some (front, back) := by
  induction front with
  | nil => cases back <;> rfl
  | cons c rest ih =>
    have positive := c.utf8Size_pos
    obtain ⟨count, size⟩ : ∃ count, byteLength (c :: rest) = count + 1 :=
      ⟨c.utf8Size + byteLength rest - 1, by
        simp only [byteLength, List.map_cons, List.sum_cons]
        omega⟩
    have remaining : count + 1 - c.utf8Size = byteLength rest := by
      simp only [byteLength, List.map_cons, List.sum_cons] at size ⊢
      omega
    have within : c.utf8Size ≤ count + 1 := by
      simp only [byteLength, List.map_cons, List.sum_cons] at size
      omega
    rw [size, List.cons_append, splitAtByte?, if_pos within, remaining, ih]
    rfl

theorem findByte?_getD (p : Char → Bool) (s : List Char) :
    (findByte? p s).getD (byteLength s) = byteLength (s.takeWhile fun c => !p c) := by
  induction s with
  | nil => rfl
  | cons c rest ih =>
    by_cases holds : p c = true
    · simp [findByte?, holds, byteLength]
    · have step : (findByte? p (c :: rest)).getD (byteLength (c :: rest)) =
          c.utf8Size + (findByte? p rest).getD (byteLength rest) := by
        rw [findByte?, if_neg holds]
        cases findByte? p rest <;> simp [byteLength]
      rw [step, ih, List.takeWhile_cons_of_pos (by simp [holds])]
      simp [byteLength]

end Text

namespace Expression

/-- Why a descent ends without an expression. -/
inductive Halt
  | refused (cause : ReadError)
  | misaligned
  | unfinished

def descendWord (text : List Char) : Except Halt (List Char × List Char) :=
  let visible := Text.trimLeft text
  match Text.splitAtByte? visible
      ((Text.findByte? endsWord visible).getD (Text.byteLength visible)) with
  | none => .error .misaligned
  | some ([], _) => .error (.refused .unexpectedEnd)
  | some (c :: letters, rest) => .ok (c :: letters, Text.trim rest)

mutual

/-- Read the first expression of a text. -/
def descend : Nat → List Char → Except Halt (Expression × List Char)
  | 0, _ => .error .unfinished
  | rounds + 1, text =>
    match Text.trim text with
    | [] => .error (.refused .unexpectedEnd)
    | ')' :: _ => .error (.refused .unexpectedClosing)
    | '(' :: rest =>
      match Text.splitAtByte? ('(' :: rest) 1 with
      | none => .error .misaligned
      | some (_, inside) =>
        match descendWord inside with
        | .error halt => .error halt
        | .ok (name, behind) =>
          match Operator.ofSymbol? (String.ofList name) with
          | none => .error (.refused (.unknownOperator (String.ofList name)))
          | some operator => descendArguments rounds operator [] behind
    | c :: rest =>
      match descendWord (c :: rest) with
      | .error halt => .error halt
      | .ok (word, behind) =>
        match ofWord word with
        | .error cause => .error (.refused cause)
        | .ok e => .ok (e, behind)

/-- Read the arguments of a call up to its closing parenthesis, the last one read first. -/
def descendArguments : Nat → Operator → List Expression → List Char →
    Except Halt (Expression × List Char)
  | 0, _, _, _ => .error .unfinished
  | _ + 1, _, _, [] => .error (.refused .unexpectedEnd)
  | _ + 1, operator, arguments, ')' :: rest =>
    match Text.splitAtByte? (')' :: rest) 1 with
    | none => .error .misaligned
    | some (_, behind) => .ok (.call operator arguments.reverse, Text.trim behind)
  | rounds + 1, operator, arguments, text =>
    match descend rounds text with
    | .error halt => .error halt
    | .ok (argument, behind) =>
      descendArguments rounds operator (argument :: arguments) behind

end

/-- A word is always cut off between characters: it goes up to the first one that ends words. -/
theorem descendWord_eq (text : List Char) : descendWord text =
    match (Text.trimLeft text).takeWhile fun c => !endsWord c with
    | [] => .error (.refused .unexpectedEnd)
    | c :: letters =>
      .ok (c :: letters, Text.trim ((Text.trimLeft text).dropWhile fun c => !endsWord c)) := by
  have parts := Text.splitAtByte?_append
    ((Text.trimLeft text).takeWhile fun c => !endsWord c)
    ((Text.trimLeft text).dropWhile fun c => !endsWord c)
  rw [List.takeWhile_append_dropWhile] at parts
  unfold descendWord
  dsimp only
  rw [Text.findByte?_getD, parts]
  cases (Text.trimLeft text).takeWhile fun c => !endsWord c <;> rfl

theorem descendWord_of_trimLeft_eq_nil {text : List Char} (blank : Text.trimLeft text = []) :
    descendWord text = .error (.refused .unexpectedEnd) := by
  rw [descendWord_eq, blank]
  rfl

/-- A descent finds a word where the first token of a text is one, and only there. -/
theorem descendWord_word {text letters rest : List Char}
    (first : StartsWith (Text.trimLeft text) (.word letters) rest) :
    descendWord text = .ok (letters, Text.trim rest) := by
  rw [descendWord_eq]
  generalize Text.trimLeft text = visible at first
  cases first with
  | @word c letters rest starts within ends =>
    have inside : ∀ d ∈ c :: letters, (!endsWord d) = true := by
      intro d member
      simp [within d member]
    have stop : rest.takeWhile (fun d => !endsWord d) = [] := by
      cases rest with
      | nil => rfl
      | cons d behind => simp [ends d rfl]
    have left : rest.dropWhile (fun d => !endsWord d) = rest := by
      cases rest with
      | nil => rfl
      | cons d behind => simp [ends d rfl]
    rw [List.takeWhile_append_of_pos inside, List.dropWhile_append_of_pos inside, stop, left,
      List.append_nil]

theorem descendWord_parenthesis {text rest : List Char} {token : Token}
    (first : StartsWith (Text.trimLeft text) token rest)
    (no_word : ∀ letters, token ≠ .word letters) :
    descendWord text = .error (.refused .unexpectedEnd) := by
  rw [descendWord_eq]
  generalize Text.trimLeft text = visible at first
  cases first with
  | opening => rfl
  | closing => rfl
  | word => exact absurd rfl (no_word _)

theorem StartsWith.exists_head {text rest : List Char} {token : Token}
    (first : StartsWith text token rest) (not_closing : token ≠ .closing) :
    ∃ c behind, text = c :: behind ∧ c ≠ ')' := by
  cases first with
  | opening rest => exact ⟨'(', rest, rfl, by decide⟩
  | closing => exact absurd rfl not_closing
  | @word c letters rest _ within =>
    refine ⟨c, letters ++ rest, rfl, ?_⟩
    rintro rfl
    have ends := within ')' List.mem_cons_self
    simp [endsWord] at ends

theorem descendArguments_argument {rounds : Nat} {operator : Operator}
    {arguments : List Expression} {text rest : List Char} {c : Char} (split : text = c :: rest)
    (not_closing : c ≠ ')') : descendArguments (rounds + 1) operator arguments text =
      match descend rounds text with
      | .error halt => .error halt
      | .ok (argument, behind) =>
        descendArguments rounds operator (argument :: arguments) behind := by
  subst split
  rw [descendArguments]
  · simp
  · rintro behind same
    exact not_closing (List.cons.inj same).1

theorem descend_opening {rounds : Nat} {text rest : List Char}
    (split : Text.trim text = '(' :: rest) : descend (rounds + 1) text =
      match descendWord rest with
      | .error halt => .error halt
      | .ok (name, behind) =>
        match Operator.ofSymbol? (String.ofList name) with
        | none => .error (.refused (.unknownOperator (String.ofList name)))
        | some operator => descendArguments rounds operator [] behind := by
  have cut : Text.splitAtByte? ('(' :: rest) 1 = some (['('], rest) :=
    Text.splitAtByte?_append ['('] rest
  simp only [descend, split, cut]

/-- A descent takes a word in front of a text for an expression. -/
theorem descend_word {rounds : Nat} {text letters behind : List Char}
    (first : StartsWith (Text.trim text) (.word letters) behind) :
    descend (rounds + 1) text =
      match ofWord letters with
      | .error cause => .error (.refused cause)
      | .ok e => .ok (e, Text.trim behind) := by
  have found := descendWord_word ((Text.trimLeft_trim text).symm ▸ first)
  rw [descend]
  generalize Text.trim text = visible at first found
  cases first with
  | @word c letters behind starts within ends =>
    have c_within := within c List.mem_cons_self
    split
    · contradiction
    · next same =>
      rw [List.cons_append, List.cons.injEq] at same
      simp [same.1, endsWord] at c_within
    · next same =>
      rw [List.cons_append, List.cons.injEq] at same
      simp [same.1, endsWord] at c_within
    · next same =>
      rw [← same, found]

theorem lexemes_trim_of_suffix {text left : List Char} (suffix : left <:+ Text.trim text) :
    lexemes (Text.trim left) = lexemes left := by
  rw [Text.trim_of_suffix suffix, lexemes_trimLeft]

section Step

variable {rounds : Nat} {text : List Char}

/-- If a descent reads the arguments of calls as going through the tokens does, it reads calls so
as well. -/
theorem descend_call
    (reads_arguments : ∀ operator text, Text.trim text = text → 2 * text.length + 1 < rounds →
      descendArguments rounds operator [] text =
        (readLexemes [⟨operator, []⟩] (lexemes text)).mapError .refused)
    (enough : 2 * (Text.trim text).length < rounds + 1) {left : List Char}
    (opens : Text.trim text = '(' :: left) (outside : List Char) :
    descend (rounds + 1) text =
      (readLexemes [] (⟨.opening, outside⟩ :: lexemes left)).mapError .refused := by
  have suffix : left <:+ Text.trim text := by
    rw [opens]
    exact List.suffix_cons _ _
  rw [descend_opening opens]
  rcases blank_or_startsWith left with
    ⟨blank, none_found⟩ | ⟨next, inside, first_inside, shorter, suffix_inside, found⟩
  · rw [descendWord_of_trimLeft_eq_nil blank, none_found]
    rfl
  · rw [found]
    cases next with
    | opening =>
      rw [descendWord_parenthesis first_inside (by simp), readLexemes_opening (by simp)]
      rfl
    | closing =>
      rw [descendWord_parenthesis first_inside (by simp), readLexemes_opening (by simp)]
      rfl
    | word name =>
      rw [descendWord_word first_inside]
      cases known : Operator.ofSymbol? (String.ofList name) with
      | none =>
        simp only [readLexemes, known]
        rfl
      | some operator =>
        have fewer := Text.length_trim_le inside
        have still_enough : 2 * (Text.trim inside).length + 1 < rounds := by
          rw [opens, List.length_cons] at enough
          omega
        have read := reads_arguments operator _ (Text.trim_trim inside) still_enough
        rw [lexemes_trim_of_suffix (suffix_inside.trans suffix)] at read
        simp only [readLexemes, known]
        exact read

theorem descend_succ
    (reads_arguments : ∀ operator text, Text.trim text = text → 2 * text.length + 1 < rounds →
      descendArguments rounds operator [] text =
        (readLexemes [⟨operator, []⟩] (lexemes text)).mapError .refused)
    (enough : 2 * (Text.trim text).length < rounds + 1) :
    descend (rounds + 1) text = (readFirst text).mapError .refused := by
  unfold readFirst
  rcases blank_or_startsWith (Text.trim text) with
    ⟨blank, none_found⟩ | ⟨token, left, first, -, suffix, found⟩
  · rw [Text.trimLeft_trim] at blank
    rw [none_found]
    simp only [descend, blank]
    rfl
  · rw [Text.trimLeft_trim] at first
    rw [found]
    cases token with
    | opening => exact descend_call reads_arguments enough first.eq_append _
    | closing =>
      have closes : Text.trim text = ')' :: left := first.eq_append
      simp only [descend, closes]
      rfl
    | word letters =>
      rw [descend_word first, Text.trim_of_suffix suffix]
      cases known : ofWord letters with
      | error cause =>
        rw [readLexemes_unknown_word known]
        rfl
      | ok e =>
        rw [readLexemes_word known]
        rfl

/-- Inside some open calls the reader does what it does without them, until it is through with
what it would read then, and resumes from there. -/
theorem readLexemes_append (outer : List OpenCall) {inner : List OpenCall} {found : List Lexeme}
    {s : List Char} (split : lexemes s = found)
    (expects : inner = [] → ∀ lexeme ∈ found.head?, lexeme.token ≠ .closing) :
    readLexemes (inner ++ outer) found =
      readLexemes inner found >>= fun answer =>
        resume outer answer.1 answer.2 (lexemes answer.2) := by
  induction inner, found using readLexemes.induct generalizing s with
  | case1 calls => cases calls <;> cases outer <;> rfl
  | case2 calls outside name inside rest operator known ih =>
    have behind := (lexemes_rest (lexemes_rest split).1).1
    have read := ih behind (fun empty => nomatch empty)
    simp only [readLexemes, known]
    exact read
  | case3 calls outside name inside rest unknown =>
    simp only [readLexemes, unknown]
    rfl
  | case4 calls outside rest no_word =>
    rw [readLexemes_opening no_word, readLexemes_opening no_word]
    rfl
  | case5 outside rest => exact absurd rfl (expects rfl _ rfl)
  | case6 call behind rest =>
    obtain ⟨remaining, -⟩ := lexemes_rest split
    rw [List.singleton_append, readLexemes_closing, readLexemes_closing, ← remaining]
    rfl
  | case7 call next calls outside rest ih =>
    exact ih (lexemes_rest split).1 (fun empty => nomatch empty)
  | case8 calls spelling behind rest failure unknown =>
    rw [readLexemes_unknown_word unknown, readLexemes_unknown_word unknown]
    rfl
  | case9 spelling behind rest value known =>
    obtain ⟨remaining, -⟩ := lexemes_rest split
    rw [List.nil_append, readLexemes_word known, readLexemes_word known, ← remaining]
    rfl
  | case10 spelling behind rest value call calls known ih =>
    have read := ih (lexemes_rest split).1 (fun empty => nomatch empty)
    rw [List.cons_append, readLexemes_word known, readLexemes_word known]
    exact read

/-- If a descent reads expressions and fewer arguments as going through the tokens does, it reads
one more argument so as well. -/
theorem descendArguments_succ
    (reads : ∀ text, 2 * (Text.trim text).length < rounds →
      descend rounds text = (readFirst text).mapError .refused)
    (reads_arguments : ∀ operator arguments text, Text.trim text = text →
      2 * text.length + 1 < rounds → descendArguments rounds operator arguments text =
        (readLexemes [⟨operator, arguments⟩] (lexemes text)).mapError .refused)
    (operator : Operator) (arguments : List Expression) (trimmed : Text.trim text = text)
    (enough : 2 * text.length + 1 < rounds + 1) :
    descendArguments (rounds + 1) operator arguments text =
      (readLexemes [⟨operator, arguments⟩] (lexemes text)).mapError .refused := by
  rcases blank_or_startsWith text with ⟨blank, none_found⟩ | ⟨token, left, first, -, suffix, found⟩
  · rw [← trimmed, Text.trimLeft_trim, trimmed] at blank
    subst blank
    rw [none_found]
    rfl
  · rw [← trimmed, Text.trimLeft_trim, trimmed] at first
    have read_first : readFirst text = readLexemes [] (lexemes text) := by
      rw [readFirst, trimmed]
    by_cases closes : token = .closing
    · subst closes
      have split : text = ')' :: left := first.eq_append
      have cut : Text.splitAtByte? (')' :: left) 1 = some ([')'], left) :=
        Text.splitAtByte?_append [')'] left
      have trimmed_left : Text.trim left = Text.trimLeft left := by
        apply Text.trim_of_suffix
        rwa [trimmed]
      rw [found, split]
      simp only [descendArguments, cut, trimmed_left]
      rfl
    · -- The call waits outside while its next argument is read as if it stood alone.
      have expects : ([] : List OpenCall) = [] → ∀ lexeme ∈ (lexemes text).head?,
          lexeme.token ≠ .closing := by
        rintro - lexeme head
        rw [found, List.head?_cons, Option.mem_some_iff] at head
        rw [← head]
        exact closes
      have read := readLexemes_append [⟨operator, arguments⟩] rfl expects
      rw [List.nil_append, ← read_first] at read
      obtain ⟨c, rest, split, not_closing⟩ := first.exists_head closes
      rw [read, descendArguments_argument split not_closing, reads text (by rw [trimmed]; omega)]
      cases taken : readFirst text with
      | error cause => rfl
      | ok answer =>
        obtain ⟨argument, behind⟩ := answer
        have consumed := consumesOne_of_readFirst taken
        have trimmed_behind : Text.trim behind = behind := by
          apply Text.trim_eq_self consumed.no_blank_in_front
          intro nonempty
          exact consumed.no_blank_at_end _ (List.getLast_mem_getLast? nonempty)
        have shorter := consumed.shorter
        exact reads_arguments operator (argument :: arguments) behind trimmed_behind (by omega)

end Step

theorem descend_eq (rounds : Nat) :
    (∀ text, 2 * (Text.trim text).length < rounds →
      descend rounds text = (readFirst text).mapError .refused) ∧
    ∀ operator arguments text, Text.trim text = text → 2 * text.length + 1 < rounds →
      descendArguments rounds operator arguments text =
        (readLexemes [⟨operator, arguments⟩] (lexemes text)).mapError .refused := by
  -- An argument is read in the round behind the one that finds it, so each character may cost two.
  induction rounds with
  | zero => exact ⟨fun _ enough => by omega, fun _ _ _ _ enough => by omega⟩
  | succ rounds ih =>
    obtain ⟨reads, reads_arguments⟩ := ih
    constructor
    · intro text enough
      exact descend_succ (fun operator => reads_arguments operator []) enough
    · intro operator arguments text trimmed enough
      exact descendArguments_succ reads reads_arguments operator arguments trimmed enough

/-- Reading takes one expression off the front of a text and always something, so a descent ends
on every text, cuts none within a character, and reads what going through the tokens reads. -/
theorem readFirst_takes_one_expression (text : List Char) :
    (∀ e rest, readFirst text = .ok (e, rest) → ConsumesOne text e rest) ∧
    ∀ rounds, 2 * (Text.trim text).length < rounds →
      descend rounds text = (readFirst text).mapError .refused := by
  constructor
  · intro e rest succeeded
    exact consumesOne_of_readFirst succeeded
  · intro rounds enough
    exact (descend_eq rounds).1 text enough

end Expression

end WindowPlacement
