import WindowPlacement.Proofs.TakenTokens

/-!
# The first token that does not fit

Some tokens are viable if an expression goes on from them.  As long as the reader has not refused a
text, the tokens it has gone through are those of calls that are still open, and such tokens are
viable: arguments and closing parentheses would make an expression of them.  When it refuses the
text it does so at the first token that no expression goes on with, so the failure is about the
leftmost problem of the text.
-/

namespace WindowPlacement.Expression

/-- Some tokens that an expression starts with. -/
def IsViable (front : List Token) : Prop :=
  ∃ d : Derivation, front <+: d.tokens

/-- The first token of a list behind which the tokens so far are not viable. -/
structure IsFirstMisfit (found front : List Token) (token : Token) : Prop where
  in_front : front ++ [token] <+: found
  viable : IsViable front
  not_viable : ¬IsViable (front ++ [token])

theorem IsViable.of_prefix {front longer : List Token} (viable : IsViable longer)
    (shorter : front <+: longer) : IsViable front := by
  obtain ⟨d, starts⟩ := viable
  exact ⟨d, shorter.trans starts⟩

namespace IsFirstMisfit

variable {found front front' : List Token} {token token' : Token}

theorem not_isViable (misfit : IsFirstMisfit found front token) : ¬IsViable found := by
  intro viable
  exact misfit.not_viable (viable.of_prefix misfit.in_front)

theorem length_le (misfit : IsFirstMisfit found front token)
    (misfit' : IsFirstMisfit found front' token') : front.length ≤ front'.length := by
  by_contra longer
  have within : front' ++ [token'] <+: front := by
    apply List.prefix_of_prefix_length_le misfit'.in_front
    · exact (List.prefix_append front [token]).trans misfit.in_front
    · rw [List.length_append, List.length_singleton]
      omega
  exact misfit'.not_viable (misfit.viable.of_prefix within)

theorem unique (misfit : IsFirstMisfit found front token)
    (misfit' : IsFirstMisfit found front' token') : front = front' ∧ token = token' := by
  have as_long := misfit.length_le misfit'
  have as_short := misfit'.length_le misfit
  have same : front ++ [token] = front' ++ [token'] := by
    apply (List.prefix_of_prefix_length_le misfit.in_front misfit'.in_front _).eq_of_length
    all_goals
      simp only [List.length_append, List.length_singleton]
      omega
  exact List.append_singleton_inj.mp same

end IsFirstMisfit

/-- What a failure says about a token behind some others that it does not fit. -/
inductive Blames : List Token → Token → ReadError → Prop
  | closing : Blames [] .closing .unexpectedClosing
  | parenthesis {front : List Token} {token : Token} (opened : front.getLast? = some .opening)
      (no_word : ∀ letters, token ≠ .word letters) : Blames front token .unexpectedEnd
  | operator {front : List Token} {letters : List Char} (opened : front.getLast? = some .opening) :
      Blames front (.word letters) (.unknownOperator (String.ofList letters))
  | numeral {front : List Token} {letters : List Char} (not_opened : front.getLast? ≠ some .opening)
      (starts : letters.head?.any Char.isDigit = true) :
      Blames front (.word letters) (.badNumeral (String.ofList letters))
  | measure {front : List Token} {letters : List Char} (not_opened : front.getLast? ≠ some .opening)
      (starts : letters.head?.any Char.isDigit = false) :
      Blames front (.word letters) (.unknownMeasure (String.ofList letters))

theorem blames_of_ofWord {front : List Token} {letters : List Char} {failure : ReadError}
    (not_opened : front.getLast? ≠ some .opening) (unknown : ofWord letters = .error failure) :
    Blames front (.word letters) failure := by
  unfold ofWord at unknown
  split_ifs at unknown with starts
  · split at unknown
    · contradiction
    · injection unknown with same
      subst same
      exact .numeral not_opened starts
  · split at unknown
    · contradiction
    · injection unknown with same
      subst same
      exact .measure not_opened (Bool.eq_false_iff.mpr starts)

/-- A token of which it does not matter what is behind it. -/
def Token.alone (token : Token) : Lexeme :=
  ⟨token, []⟩

theorem map_token_alone (tokens : List Token) :
    (tokens.map Token.alone).map Lexeme.token = tokens := by
  induction tokens with
  | nil => rfl
  | cons token tokens ih => simp [Token.alone, ih]

/-- The calls that are open behind some tokens. -/
inductive Opens : List Token → List OpenCall → Prop
  | start : Opens [] []
  | call {front : List Token} {calls : List OpenCall} {name : List Char} {operator : Operator}
      (before : Opens front calls) (known : Operator.ofSymbol? (String.ofList name) = some operator) :
      Opens (front ++ [.opening, .word name]) (⟨operator, []⟩ :: calls)
  | argument {front : List Token} {inner : OpenCall} {outer : List OpenCall}
      {spelling : List Char} {value : Expression} (before : Opens front (inner :: outer))
      (known : ofWord spelling = .ok value) :
      Opens (front ++ [.word spelling]) (inner.push value :: outer)
  | close {front : List Token} {inner next : OpenCall} {outer : List OpenCall}
      (before : Opens front (inner :: next :: outer)) :
      Opens (front ++ [.closing]) (next.push inner.close :: outer)

theorem exists_closing (inner : OpenCall) (outer : List OpenCall) :
    ∃ more answer, readLexemes (inner :: outer) more = .ok answer := by
  induction outer generalizing inner with
  | nil => exact ⟨[Token.closing.alone], _, rfl⟩
  | cons next outer ih =>
    obtain ⟨more, answer, reads⟩ := ih (next.push inner.close)
    exact ⟨Token.closing.alone :: more, answer, reads⟩

theorem exists_ending (calls : List OpenCall) :
    ∃ more answer, readLexemes calls more = .ok answer := by
  cases calls with
  | nil => exact ⟨[(Token.word ['x']).alone], _, rfl⟩
  | cons inner outer => exact exists_closing inner outer

theorem readLexemes_nil (calls : List OpenCall) : readLexemes calls [] = .error .unexpectedEnd := by
  cases calls <;> rfl

namespace Opens

variable {front : List Token} {calls : List OpenCall}

theorem readLexemes_eq (opens : Opens front calls) (rest : List Lexeme) :
    readLexemes [] (front.map Token.alone ++ rest) = readLexemes calls rest := by
  induction opens generalizing rest with
  | start => rfl
  | call before known ih =>
    rw [List.map_append, List.append_assoc, ih]
    simp [Token.alone, readLexemes, known]
  | argument before known ih =>
    rw [List.map_append, List.append_assoc, ih]
    exact readLexemes_word known _ _ _
  | close before ih =>
    rw [List.map_append, List.append_assoc, ih]
    rfl

theorem eq_nil (opens : Opens front []) : front = [] := by
  cases opens
  rfl

theorem getLast?_ne (opens : Opens front calls) : front.getLast? ≠ some .opening := by
  cases opens <;> simp

/-- Tokens behind some open calls are viable if an expression is read with them but not without
any behind them. -/
theorem isViable_append (opens : Opens front calls) (stuck : List Token) {more : List Lexeme}
    {answer : Expression × List Char}
    (unfinished : readLexemes calls (stuck.map Token.alone) = .error .unexpectedEnd)
    (reads : readLexemes calls (stuck.map Token.alone ++ more) = .ok answer) :
    IsViable (front ++ stuck) := by
  have stops := opens.readLexemes_eq (stuck.map Token.alone)
  have goes_on := opens.readLexemes_eq (stuck.map Token.alone ++ more)
  rw [← List.map_append, unfinished] at stops
  rw [← List.append_assoc, ← List.map_append, reads] at goes_on
  rcases readsExpression_or_closing [] _ goes_on with
    ⟨d, first, rest, behind, split, spelled, -⟩ | ⟨_, _, _, _, impossible, -⟩
  · refine ⟨d, ?_⟩
    -- The expression reaches beyond the tokens, since they alone do not make it complete.
    rcases List.append_eq_append_iff.mp split with ⟨middle, whole, -⟩ | ⟨middle, whole, -⟩
    · refine ⟨middle.map Lexeme.token, ?_⟩
      rw [← spelled.map_token, whole, List.map_append, map_token_alone]
    · rw [whole, d.readLexemes_tokens [] middle spelled] at stops
      contradiction
  · contradiction

theorem isViable (opens : Opens front calls) : IsViable front := by
  obtain ⟨more, answer, reads⟩ := exists_ending calls
  have viable := opens.isViable_append [] (readLexemes_nil calls) reads
  rwa [List.append_nil] at viable

theorem isViable_opening (opens : Opens front calls) : IsViable (front ++ [.opening]) := by
  obtain ⟨more, answer, reads⟩ := exists_closing ⟨.add, []⟩ calls
  have goes_on : readLexemes calls
      ([Token.opening].map Token.alone ++ (Token.word ['+']).alone :: more) = .ok answer := reads
  exact opens.isViable_append [.opening] (readLexemes_opening (by simp) calls) goes_on

/-- Tokens behind some open calls are not viable if the reader refuses them whatever comes. -/
theorem not_isViable_append (opens : Opens front calls) (stuck : List Token) {failure : ReadError}
    (refuses : ∀ more, readLexemes calls (stuck.map Token.alone ++ more) = .error failure) :
    ¬IsViable (front ++ stuck) := by
  rintro ⟨d, more, whole⟩
  have nonempty : d.tokens.map Token.alone ≠ [] := by
    simp [d.tokens_ne_nil]
  obtain ⟨behind, spelled⟩ := Spells.of_map_token nonempty (map_token_alone d.tokens)
  have succeeds := d.readLexemes_tokens [] [] spelled
  rw [List.append_nil, ← whole, List.map_append, List.map_append, List.append_assoc,
    opens.readLexemes_eq, refuses] at succeeds
  contradiction

theorem isFirstMisfit (opens : Opens front calls) {token : Token} (rest : List Token)
    {failure : ReadError}
    (refuses : ∀ more, readLexemes calls ([token].map Token.alone ++ more) = .error failure) :
    IsFirstMisfit (front ++ token :: rest) front token where
  in_front := by simp
  viable := opens.isViable
  not_viable := opens.not_isViable_append [token] refuses

theorem isFirstMisfit_opening (opens : Opens front calls) {token : Token} (rest : List Token)
    {failure : ReadError} (refuses : ∀ more,
      readLexemes calls ([.opening, token].map Token.alone ++ more) = .error failure) :
    IsFirstMisfit (front ++ .opening :: token :: rest) (front ++ [.opening]) token where
  in_front := by simp
  viable := opens.isViable_opening
  not_viable := by
    rw [List.append_assoc]
    exact opens.not_isViable_append [.opening, token] refuses

/-- Refusing what is behind some open calls is running out of tokens, or it is about the first
token that does not fit. -/
theorem blames_first_misfit (opens : Opens front calls) {found : List Lexeme}
    {failure : ReadError} (refused : readLexemes calls found = .error failure) :
    (failure = .unexpectedEnd ∧ IsViable (front ++ found.map Lexeme.token)) ∨
      ∃ passed token, IsFirstMisfit (front ++ found.map Lexeme.token) passed token ∧
        Blames passed token failure := by
  induction calls, found using readLexemes.induct generalizing front with
  | case1 calls =>
    rw [readLexemes_nil] at refused
    left
    rw [List.map_nil, List.append_nil]
    exact ⟨(Except.error.inj refused).symm, opens.isViable⟩
  | case2 calls outside name inside rest operator known ih =>
    simp only [readLexemes, known] at refused
    have later := ih (opens.call known) refused
    rwa [List.append_assoc] at later
  | case3 calls outside name inside rest unknown =>
    simp only [readLexemes, unknown] at refused
    have refuses (more : List Lexeme) : readLexemes calls
        ([Token.opening, .word name].map Token.alone ++ more) = .error failure := by
      simpa [Token.alone, readLexemes, unknown] using refused
    right
    refine ⟨_, _, opens.isFirstMisfit_opening _ refuses, ?_⟩
    rw [← Except.error.inj refused]
    exact .operator (by simp)
  | case4 calls outside rest no_word =>
    rw [readLexemes_opening no_word] at refused
    have ended := (Except.error.inj refused).symm
    cases rest with
    | nil =>
      -- The text ends behind the parenthesis, and an operator might still come.
      exact .inl ⟨ended, opens.isViable_opening⟩
    | cons lexeme rest =>
      have parenthesis : ∀ letters, lexeme.token ≠ .word letters := by
        rintro letters same
        exact no_word letters lexeme.rest rest (by rw [← same])
      have refuses (more : List Lexeme) : readLexemes calls
          ([Token.opening, lexeme.token].map Token.alone ++ more) = .error .unexpectedEnd := by
        apply readLexemes_opening
        rintro name inside remaining same
        exact parenthesis name (congrArg Lexeme.token (List.cons.inj same).1)
      right
      refine ⟨_, _, opens.isFirstMisfit_opening _ refuses, ?_⟩
      rw [ended]
      exact .parenthesis (by simp) parenthesis
  | case5 outside rest =>
    have refuses (more : List Lexeme) :
        readLexemes [] ([Token.closing].map Token.alone ++ more) = .error .unexpectedClosing := rfl
    right
    refine ⟨_, _, opens.isFirstMisfit _ refuses, ?_⟩
    rw [← Except.error.inj refused, opens.eq_nil]
    exact .closing
  | case6 call behind rest => contradiction
  | case7 inner next calls outside rest ih =>
    have later := ih opens.close refused
    rwa [List.append_assoc] at later
  | case8 calls spelling behind rest cause unknown =>
    have refuses (more : List Lexeme) : readLexemes calls
        ([Token.word spelling].map Token.alone ++ more) = .error cause :=
      readLexemes_unknown_word unknown calls [] more
    rw [readLexemes_unknown_word unknown] at refused
    right
    refine ⟨_, _, opens.isFirstMisfit _ refuses, ?_⟩
    rw [← Except.error.inj refused]
    exact blames_of_ofWord opens.getLast?_ne unknown
  | case9 spelling behind rest value known =>
    rw [readLexemes_word known] at refused
    contradiction
  | case10 spelling behind rest value inner outer known ih =>
    rw [readLexemes_word known] at refused
    have later := ih (opens.argument known) refused
    rwa [List.append_assoc] at later

end Opens

/-- What a failure to read a text with the given tokens says about them.  Unless an expression is
complete before the text ends, it is about the first token that fits no expression, or about the
end of the text. -/
structure BlamesLeftmost (text : List Char) (found : List Token) (failure : ReadError) : Prop where
  closing : failure = .unexpectedClosing ↔ found.head? = some .closing
  trailing : ∀ rest, failure = .trailingText rest ↔ ∃ (d : Derivation) (left : List Char),
    d.tokens <+: found ∧ d.tokens ≠ found ∧ Leaves (Text.trim text) d.tokens left ∧
      rest = String.ofList (Text.trim left)
  misfit : (∀ d : Derivation, d.tokens <+: found → d.tokens = found) →
    ∀ front token, IsFirstMisfit found front token → Blames front token failure
  cut_short : (∀ d : Derivation, d.tokens <+: found → d.tokens = found) →
    (∀ front token, ¬IsFirstMisfit found front token) →
      failure = .unexpectedEnd ∧ ∃ d : Derivation, found <+: d.tokens ∧ found ≠ d.tokens

theorem tokens_eq_nil_iff {s : List Char} : tokens s = [] ↔ Text.trimLeft s = [] := by
  rcases blank_or_startsWith s with ⟨blank, none⟩ | ⟨token, left, first, -, -, found⟩
  · simp [tokens, none, blank]
  · have visible : Text.trimLeft s ≠ [] := by
      rw [first.eq_append]
      simp [first.characters_ne_nil]
    simp [tokens, found, visible]

theorem Leaves.tokens_ne_iff {text left : List Char} {d : Derivation}
    (leaves : Leaves (Text.trim text) d.tokens left) :
    d.tokens ≠ tokens (Text.trim text) ↔ Text.trim left ≠ [] := by
  rw [leaves.tokens_eq_append, Text.trim_of_suffix leaves.suffix, Ne, Ne, ← tokens_eq_nil_iff,
    List.self_eq_append_right]

theorem read_eq_error_iff {text : List Char} {failure : ReadError} :
    read text = .error failure ↔ readFirst text = .error failure ∨
      ∃ e behind, readFirst text = .ok (e, behind) ∧ behind ≠ [] ∧
        failure = .trailingText (String.ofList behind) := by
  unfold read
  constructor
  · intro refused
    split at refused
    · next cause failed =>
      rw [← Except.error.inj refused]
      exact .inl failed
    · contradiction
    · next e behind nonempty succeeded =>
      exact .inr ⟨e, behind, succeeded, nonempty, (Except.error.inj refused).symm⟩
  · rintro (failed | ⟨e, behind, succeeded, nonempty, rfl⟩)
    · rw [failed]
    · rw [succeeded]
      cases behind with
      | nil => contradiction
      | cons c rest => rfl

theorem blames_of_readFirst {text : List Char} {failure : ReadError}
    (failed : readFirst text = .error failure) :
    (failure = .unexpectedEnd ∧ IsViable (tokens (Text.trim text))) ∨
      ∃ passed token, IsFirstMisfit (tokens (Text.trim text)) passed token ∧
        Blames passed token failure :=
  Opens.start.blames_first_misfit failed

theorem read_eq_closing_iff {text : List Char} :
    read text = .error .unexpectedClosing ↔
      (tokens (Text.trim text)).head? = some .closing := by
  constructor
  · intro refused
    rcases read_eq_error_iff.mp refused with failed | ⟨_, _, _, _, impossible⟩
    · rcases blames_of_readFirst failed with ⟨impossible, -⟩ | ⟨passed, token, misfit, blames⟩
      · contradiction
      · cases blames
        obtain ⟨more, whole⟩ := misfit.in_front
        exact congrArg List.head? whole.symm
    · contradiction
  · intro head
    rw [tokens, List.head?_map] at head
    obtain ⟨lexeme, is_first, closes⟩ := Option.map_eq_some_iff.mp head
    obtain ⟨more, split⟩ := List.head?_eq_some_iff.mp is_first
    obtain ⟨token, behind⟩ := lexeme
    subst closes
    rw [read_eq_error_iff, readFirst, split]
    exact .inl rfl

theorem read_eq_trailing_iff {text : List Char} {rest : String} :
    read text = .error (.trailingText rest) ↔ ∃ (d : Derivation) (left : List Char),
      d.tokens <+: tokens (Text.trim text) ∧ d.tokens ≠ tokens (Text.trim text) ∧
        Leaves (Text.trim text) d.tokens left ∧ rest = String.ofList (Text.trim left) := by
  constructor
  · intro refused
    rcases read_eq_error_iff.mp refused with failed | ⟨e, behind, succeeded, nonempty, same⟩
    · rcases blames_of_readFirst failed with ⟨impossible, -⟩ | ⟨_, _, -, impossible⟩
      · contradiction
      · cases impossible
    · obtain ⟨d, left, leaves, rfl, rfl⟩ := readFirst_eq_ok_iff_leaves.mp succeeded
      refine ⟨d, left, ?_, leaves.tokens_ne_iff.mpr nonempty, leaves, ?_⟩
      · rw [leaves.tokens_eq_append]
        exact List.prefix_append _ _
      · exact ReadError.trailingText.inj same
  · rintro ⟨d, left, -, proper, leaves, rfl⟩
    have succeeded := readFirst_eq_ok_iff_leaves.mpr ⟨d, left, leaves, rfl, rfl⟩
    have nonempty := leaves.tokens_ne_iff.mp proper
    exact read_eq_error_iff.mpr (.inr ⟨_, _, succeeded, nonempty, rfl⟩)

/-- A failure to read is about the leftmost problem of the text. -/
theorem read_blames_leftmost {text : List Char} {found : List Token} {failure : ReadError}
    (tokenized : Tokenizes (Text.trim text) found) (refused : read text = .error failure) :
    BlamesLeftmost text found failure := by
  obtain rfl := tokenized.eq_tokens
  have is_failure (other : ReadError) : failure = other ↔ read text = .error other := by
    rw [refused, Except.error.injEq]
  have incomplete (whole : ∀ d : Derivation, d.tokens <+: tokens (Text.trim text) →
      d.tokens = tokens (Text.trim text)) : readFirst text = .error failure := by
    rcases read_eq_error_iff.mp refused with failed | ⟨e, behind, -, -, trailing⟩
    · exact failed
    · obtain ⟨d, left, starts, proper, -⟩ :=
        read_eq_trailing_iff.mp ((is_failure _).mp trailing)
      exact absurd (whole d starts) proper
  refine ⟨?_, ?_, ?_, ?_⟩
  · rw [is_failure, read_eq_closing_iff]
  · intro rest
    rw [is_failure, read_eq_trailing_iff]
  · intro whole front token misfit
    rcases blames_of_readFirst (incomplete whole) with
      ⟨-, viable⟩ | ⟨passed, token', misfit', blames⟩
    · exact absurd viable misfit.not_isViable
    · obtain ⟨rfl, rfl⟩ := misfit.unique misfit'
      exact blames
  · intro whole fits
    rcases blames_of_readFirst (incomplete whole) with
      ⟨ended, d, starts⟩ | ⟨passed, token, misfit, -⟩
    · refine ⟨ended, d, starts, ?_⟩
      intro same
      have succeeded := read_eq_ok_iff.mpr ⟨d, same.symm, rfl⟩
      rw [succeeded] at refused
      contradiction
    · exact absurd misfit (fits passed token)

/-- The numeral is to blame although the word behind it is unknown and both calls are open. -/
theorem nested_numeral_blames_leftmost :
    read "(+ x (min 1.2.3 foo".toList = .error (.badNumeral "1.2.3") ∧
      BlamesLeftmost "(+ x (min 1.2.3 foo".toList
        (tokens (Text.trim "(+ x (min 1.2.3 foo".toList)) (.badNumeral "1.2.3") := by
  have refused : read "(+ x (min 1.2.3 foo".toList = .error (.badNumeral "1.2.3") := by
    cbv
  exact ⟨refused, read_blames_leftmost (tokenizes_tokens _) refused⟩

end WindowPlacement.Expression
