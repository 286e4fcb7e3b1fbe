import WindowPlacement.Proofs.Derivation
import WindowPlacement.Proofs.Tokens

/-!
# The grammar of expressions

The reader goes through the lexemes of a text with a stack of open calls.  Reading the
lexemes of a derivation amounts to handing its expression to the innermost open call, and
whenever the reader succeeds it has read the lexemes of a derivation.  So a text is read
exactly when its tokens have a derivation, and what is read is the expression derived.
-/

namespace WindowPlacement.Expression

/-- Some lexemes with the given tokens, the last of which has the given text behind it. -/
inductive Spells : List Lexeme → List Token → List Char → Prop
  | last (token : Token) (behind : List Char) : Spells [⟨token, behind⟩] [token] behind
  | cons {front : List Lexeme} {tokens : List Token} {behind : List Char} (token : Token)
      (next : List Char) (remaining : Spells front tokens behind) :
      Spells (⟨token, next⟩ :: front) (token :: tokens) behind

namespace Spells

variable {front front' : List Lexeme} {tokens tokens' : List Token} {behind behind' : List Char}

theorem map_token (spelled : Spells front tokens behind) : front.map Lexeme.token = tokens := by
  induction spelled with
  | last token behind => rfl
  | cons token next _ ih => rw [List.map_cons, ih]

theorem eq_singleton {token : Token} (spelled : Spells front [token] behind) :
    front = [⟨token, behind⟩] := by
  cases spelled with
  | last => rfl
  | cons _ _ remaining => nomatch remaining

theorem append (spelled : Spells front tokens behind) (spelled' : Spells front' tokens' behind') :
    Spells (front ++ front') (tokens ++ tokens') behind' := by
  induction spelled with
  | last token behind => exact .cons token behind spelled'
  | cons token next _ ih => exact .cons token next ih

theorem of_map_token (nonempty : front ≠ []) (same : front.map Lexeme.token = tokens) :
    ∃ behind, Spells front tokens behind := by
  subst same
  induction front with
  | nil => exact absurd rfl nonempty
  | cons lexeme front ih =>
    cases front with
    | nil => exact ⟨lexeme.rest, .last lexeme.token lexeme.rest⟩
    | cons next front =>
      obtain ⟨behind, spelled⟩ := ih (List.cons_ne_nil _ _)
      exact ⟨behind, .cons lexeme.token lexeme.rest spelled⟩

theorem of_append (spelled : Spells front (tokens ++ tokens') behind) (here : tokens ≠ [])
    (there : tokens' ≠ []) : ∃ first second middle, front = first ++ second ∧
      Spells first tokens middle ∧ Spells second tokens' behind := by
  induction tokens generalizing front with
  | nil => exact absurd rfl here
  | cons token tokens ih =>
    obtain ⟨rest, nonempty⟩ : ∃ rest, tokens ++ tokens' = rest ∧ rest ≠ [] :=
      ⟨_, rfl, by simp [there]⟩
    rw [List.cons_append, nonempty.1] at spelled
    cases spelled with
    | last token behind => exact absurd rfl nonempty.2
    | @cons front _ _ token next remaining =>
      rw [← nonempty.1] at remaining
      cases tokens with
      | nil => exact ⟨[⟨token, next⟩], front, next, rfl, .last token next, remaining⟩
      | cons following tokens =>
        obtain ⟨first, second, middle, rfl, spelled, spelled'⟩ :=
          ih remaining (List.cons_ne_nil _ _)
        exact ⟨⟨token, next⟩ :: first, second, middle, rfl, .cons token next spelled, spelled'⟩

end Spells

/-- What a lexeme remembers is the text that the lexemes behind it are those of, and it has
no blanks in front. -/
theorem lexemes_rest {s : List Char} {lexeme : Lexeme} {behind : List Lexeme}
    (split : lexemes s = lexeme :: behind) :
    lexemes lexeme.rest = behind ∧ Text.trimLeft lexeme.rest = lexeme.rest := by
  cases trimmed : Text.trimLeft s with
  | nil => simp [lexemes_of_trimLeft_eq_nil trimmed] at split
  | cons c rest =>
    rw [lexemes_of_trimLeft_eq_cons trimmed, List.cons.injEq] at split
    obtain ⟨rfl, rfl⟩ := split
    exact ⟨lexemes_trimLeft _, Text.trimLeft_trimLeft _⟩

theorem Spells.lexemes_behind {front rest : List Lexeme} {tokens : List Token}
    {behind : List Char} (spelled : Spells front tokens behind) {s : List Char}
    (split : lexemes s = front ++ rest) :
    lexemes behind = rest ∧ Text.trimLeft behind = behind := by
  induction spelled generalizing s with
  | last token behind => exact lexemes_rest split
  | cons token next _ ih => exact ih (lexemes_rest split).1

/-- A text without lexemes and without blanks in front is empty. -/
theorem eq_nil_of_lexemes_eq_nil {s : List Char} (none : lexemes s = [])
    (trimmed : Text.trimLeft s = s) : s = [] := by
  cases s with
  | nil => rfl
  | cons c rest => simp [lexemes_of_trimLeft_eq_cons trimmed] at none

/-- An expression has been read inside some open calls, with the text and the lexemes behind
it: it is an argument of the innermost call, or the answer if no call is open. -/
def resume : List OpenCall → Expression → List Char → List Lexeme →
    Except ReadError (Expression × List Char)
  | [], e, behind, _ => .ok (e, behind)
  | inner :: outer, e, _, rest => readLexemes (inner.push e :: outer) rest

theorem readLexemes_closing (inner : OpenCall) (outer : List OpenCall) (behind : List Char)
    (rest : List Lexeme) : readLexemes (inner :: outer) (⟨.closing, behind⟩ :: rest) =
      resume outer inner.close behind rest := by
  cases outer <;> rfl

theorem readLexemes_word {spelling : List Char} {value : Expression}
    (known : ofWord spelling = .ok value) (calls : List OpenCall) (behind : List Char)
    (rest : List Lexeme) : readLexemes calls (⟨.word spelling, behind⟩ :: rest) =
      resume calls value behind rest := by
  cases calls <;> simp [readLexemes, known, resume]

theorem readLexemes_call (operator : Operator) (calls : List OpenCall) (behind behind' : List Char)
    (rest : List Lexeme) :
    readLexemes calls (⟨.opening, behind⟩ :: ⟨.word operator.symbol.toList, behind'⟩ :: rest) =
      readLexemes (⟨operator, []⟩ :: calls) rest := by
  rw [readLexemes, String.ofList_toList, Operator.ofSymbol?_eq_some_iff.mpr rfl]

theorem readLexemes_opening {outside : List Char} {rest : List Lexeme}
    (no_word : ∀ name inside remaining, rest = ⟨.word name, inside⟩ :: remaining → False)
    (calls : List OpenCall) :
    readLexemes calls (⟨.opening, outside⟩ :: rest) = .error .unexpectedEnd := by
  rcases rest with _ | ⟨⟨_ | _ | name, inside⟩, remaining⟩
  · cases calls <;> rfl
  · cases calls <;> rfl
  · cases calls <;> rfl
  · exact (no_word name inside remaining rfl).elim

theorem readLexemes_unknown_word {spelling : List Char} {failure : ReadError}
    (unknown : ofWord spelling = .error failure) (calls : List OpenCall) (behind : List Char)
    (rest : List Lexeme) :
    readLexemes calls (⟨.word spelling, behind⟩ :: rest) = .error failure := by
  cases calls <;> simp [readLexemes, unknown]

theorem ofWord_measure (m : Measure) : ofWord m.symbol.toList = .ok (.measure m) := by
  simp [ofWord, m.head_symbol, Measure.ofSymbol?_eq_some_iff.mpr rfl]

theorem ofWord_numeral (numeral : Numeral) :
    ofWord numeral.spelling = .ok (.constant numeral.value) := by
  simp [ofWord, numeral.starts, numeral.reads]

theorem exists_derivation_of_ofWord {spelling : List Char} {value : Expression}
    (known : ofWord spelling = .ok value) :
    ∃ d : Derivation, d.tokens = [.word spelling] ∧ d.expression = value := by
  unfold ofWord at known
  split_ifs at known with starts
  · split at known
    · next number reads =>
      injection known with known
      exact ⟨.constant ⟨spelling, number, starts, reads⟩, rfl, known⟩
    · contradiction
  · split at known
    · next m found =>
      injection known with known
      refine ⟨.measure m, ?_, known⟩
      simp [Derivation.tokens, ← Measure.ofSymbol?_eq_some_iff.mp found]
    · contradiction

namespace Derivation

theorem tokens_ne_nil (d : Derivation) : d.tokens ≠ [] := by
  cases d <;> simp [tokens]

theorem argumentTokens_ne_nil (arguments : List Derivation) : argumentTokens arguments ≠ [] := by
  cases arguments <;> simp [argumentTokens, tokens_ne_nil]

theorem spelling_of_call {operator : Operator}
    {arguments : List Derivation} {front : List Lexeme} {behind : List Char}
    (spelled : Spells front (call operator arguments).tokens behind) :
    ∃ outside inside remaining, front = ⟨.opening, outside⟩ ::
        ⟨.word operator.symbol.toList, inside⟩ :: remaining ∧
      Spells remaining (argumentTokens arguments) behind := by
  have parts : (call operator arguments).tokens =
      [.opening] ++ ([.word operator.symbol.toList] ++ argumentTokens arguments) := rfl
  rw [parts] at spelled
  obtain ⟨first, _, outside, rfl, parenthesis, spelled⟩ :=
    spelled.of_append (by simp) (by simp)
  obtain ⟨second, remaining, inside, rfl, name, spelled⟩ :=
    spelled.of_append (by simp) (argumentTokens_ne_nil arguments)
  rw [parenthesis.eq_singleton, name.eq_singleton]
  exact ⟨outside, inside, remaining, rfl, spelled⟩

mutual

/-- The reader gets from the lexemes of a derivation its expression. -/
theorem readLexemes_tokens : ∀ (d : Derivation) (calls : List OpenCall) {front : List Lexeme}
    {behind : List Char} (rest : List Lexeme), Spells front d.tokens behind →
      readLexemes calls (front ++ rest) = resume calls d.expression behind rest
  | .call operator arguments, calls, front, behind, rest, spelled => by
    obtain ⟨_, _, front, rfl, spelled_arguments⟩ := spelling_of_call spelled
    rw [List.cons_append, List.cons_append, readLexemes_call,
      readLexemes_argumentTokens arguments _ calls rest spelled_arguments]
    simp [expression]
  | .measure m, calls, front, behind, rest, spelled => by
    rw [spelled.eq_singleton, List.singleton_append, expression]
    exact readLexemes_word (ofWord_measure m) calls behind rest
  | .constant numeral, calls, front, behind, rest, spelled => by
    rw [spelled.eq_singleton, List.singleton_append, expression]
    exact readLexemes_word (ofWord_numeral numeral) calls behind rest

theorem readLexemes_argumentTokens : ∀ (arguments : List Derivation) (inner : OpenCall)
    (outer : List OpenCall) {front : List Lexeme} {behind : List Char} (rest : List Lexeme),
    Spells front (argumentTokens arguments) behind →
      readLexemes (inner :: outer) (front ++ rest) =
        resume outer (.call inner.operator (inner.arguments.reverse ++ expressions arguments))
          behind rest
  | [], inner, outer, front, behind, rest, spelled => by
    rw [spelled.eq_singleton, List.singleton_append, readLexemes_closing]
    simp [OpenCall.close, expressions]
  | argument :: arguments, inner, outer, front, behind, rest, spelled => by
    obtain ⟨first, second, middle, rfl, here, there⟩ :=
      spelled.of_append argument.tokens_ne_nil (argumentTokens_ne_nil arguments)
    rw [List.append_assoc, readLexemes_tokens argument (inner :: outer) _ here, resume,
      readLexemes_argumentTokens arguments _ outer rest there]
    simp [OpenCall.push, expressions]

end

end Derivation

theorem Spells.length_pos {front : List Lexeme} {tokens : List Token} {behind : List Char}
    (spelled : Spells front tokens behind) : 0 < front.length := by
  cases spelled <;> simp

/-- What the reader does with some lexemes in front of which it expects an expression: it
reads the lexemes of a derivation and resumes. -/
def ReadsExpression (calls : List OpenCall) (found : List Lexeme)
    (answer : Expression × List Char) : Prop :=
  ∃ (d : Derivation) (front rest : List Lexeme) (behind : List Char), found = front ++ rest ∧
    Spells front d.tokens behind ∧ resume calls d.expression behind rest = .ok answer

/-- What the reader does with some lexemes inside an open call: it reads the lexemes of the
remaining arguments up to the closing parenthesis and resumes with the call. -/
def ReadsArguments (inner : OpenCall) (outer : List OpenCall) (found : List Lexeme)
    (answer : Expression × List Char) : Prop :=
  ∃ (arguments : List Derivation) (front rest : List Lexeme) (behind : List Char),
    found = front ++ rest ∧ Spells front (Derivation.argumentTokens arguments) behind ∧
      resume outer (.call inner.operator (inner.arguments.reverse ++
        Derivation.expressions arguments)) behind rest = .ok answer

mutual

theorem readsExpression_or_closing (calls : List OpenCall) (found : List Lexeme)
    {answer : Expression × List Char} (succeeded : readLexemes calls found = .ok answer) :
    ReadsExpression calls found answer ∨
      ∃ inner outer behind rest, calls = inner :: outer ∧ found = ⟨.closing, behind⟩ :: rest := by
  match found, succeeded with
  | [], succeeded => cases calls <;> contradiction
  | ⟨.opening, outside⟩ :: ⟨.word name, inside⟩ :: found, succeeded =>
    left
    rw [readLexemes] at succeeded
    split at succeeded
    · next operator known =>
      obtain ⟨arguments, front, rest, behind, rfl, spelled, resumed⟩ :=
        readsArguments ⟨operator, []⟩ calls found succeeded
      have named : name = operator.symbol.toList := by
        rw [← Operator.ofSymbol?_eq_some_iff.mp known, String.toList_ofList]
      subst named
      exact ⟨.call operator arguments, _, rest, behind, rfl,
        .cons .opening outside (.cons _ inside spelled), resumed⟩
    · contradiction
  | [⟨.opening, outside⟩], succeeded => cases calls <;> contradiction
  | ⟨.opening, outside⟩ :: ⟨.opening, inside⟩ :: found, succeeded => cases calls <;> contradiction
  | ⟨.opening, outside⟩ :: ⟨.closing, inside⟩ :: found, succeeded => cases calls <;> contradiction
  | ⟨.closing, behind⟩ :: rest, succeeded =>
    right
    cases calls with
    | nil => contradiction
    | cons inner outer => exact ⟨inner, outer, behind, rest, rfl, rfl⟩
  | ⟨.word spelling, behind⟩ :: rest, succeeded =>
    left
    cases known : ofWord spelling with
    | error failure => cases calls <;> simp [readLexemes, known] at succeeded
    | ok value =>
      obtain ⟨d, tokens, derived⟩ := exists_derivation_of_ofWord known
      rw [readLexemes_word known, ← derived] at succeeded
      exact ⟨d, [_], rest, behind, rfl, tokens ▸ .last _ behind, succeeded⟩
termination_by (found.length, 0)

/-- A reader that succeeds reads the arguments of the innermost open call. -/
theorem readsArguments (inner : OpenCall) (outer : List OpenCall) (found : List Lexeme)
    {answer : Expression × List Char}
    (succeeded : readLexemes (inner :: outer) found = .ok answer) :
    ReadsArguments inner outer found answer := by
  rcases readsExpression_or_closing (inner :: outer) found succeeded with
    ⟨argument, front, remaining, middle, split, here, resumed⟩ | ⟨_, _, behind, rest, _, rfl⟩
  · -- The tokens of an argument are never none, so fewer lexemes remain.
    have shorter : remaining.length < found.length := by
      have progress := here.length_pos
      rw [split, List.length_append]
      omega
    obtain ⟨arguments, second, rest, behind, rfl, there, resumed⟩ :=
      readsArguments (inner.push argument.expression) outer remaining resumed
    refine ⟨argument :: arguments, front ++ second, rest, behind,
      by rw [split, List.append_assoc], here.append there, ?_⟩
    simpa [OpenCall.push, Derivation.expressions] using resumed
  · rw [readLexemes_closing] at succeeded
    refine ⟨[], [_], rest, behind, rfl, .last .closing behind, ?_⟩
    simpa [OpenCall.close, Derivation.expressions] using succeeded
termination_by (found.length, 1)

end

/-- An expression is read off the front of a text exactly when the first lexemes of the text
have a derivation as that expression. -/
theorem readFirst_eq_ok_iff {text : List Char} {e : Expression} {behind : List Char} :
    readFirst text = .ok (e, behind) ↔ ∃ (d : Derivation) (front rest : List Lexeme),
      lexemes (Text.trim text) = front ++ rest ∧ Spells front d.tokens behind ∧
        d.expression = e := by
  unfold readFirst
  constructor
  · intro succeeded
    rcases readsExpression_or_closing [] _ succeeded with
      ⟨d, front, rest, _, split, spelled, resumed⟩ | ⟨_, _, _, _, impossible, _⟩
    · simp only [resume, Except.ok.injEq, Prod.mk.injEq] at resumed
      obtain ⟨derived, rfl⟩ := resumed
      exact ⟨d, front, rest, split, spelled, derived⟩
    · contradiction
  · rintro ⟨d, front, rest, split, spelled, rfl⟩
    rw [split, d.readLexemes_tokens [] rest spelled, resume]

/-- A text is read exactly when its tokens have a derivation. -/
theorem read_eq_ok_iff {text : List Char} {e : Expression} :
    read text = .ok e ↔ ∃ d : Derivation, d.tokens = tokens (Text.trim text) ∧
      d.expression = e := by
  have as_a_whole : read text = .ok e ↔ readFirst text = .ok (e, []) := by
    unfold read
    split <;> simp_all
  rw [as_a_whole, readFirst_eq_ok_iff]
  constructor
  · rintro ⟨d, front, rest, split, spelled, derived⟩
    have ended := (spelled.lexemes_behind split).1
    have nothing_behind : rest = [] := by
      rw [← ended]
      exact lexemes_of_trimLeft_eq_nil rfl
    subst nothing_behind
    refine ⟨d, ?_, derived⟩
    rw [tokens, split, List.append_nil, spelled.map_token]
  · rintro ⟨d, spelled, derived⟩
    have nonempty : lexemes (Text.trim text) ≠ [] := by
      intro none
      apply d.tokens_ne_nil
      rw [spelled, tokens, none, List.map_nil]
    obtain ⟨behind, spelled⟩ := Spells.of_map_token nonempty spelled.symm
    have split := (List.append_nil (lexemes (Text.trim text))).symm
    obtain ⟨none, trimmed⟩ := spelled.lexemes_behind split
    rw [eq_nil_of_lexemes_eq_nil none trimmed] at spelled
    exact ⟨d, _, [], split, spelled, derived⟩

/-- The reader accepts exactly the grammar of expressions.  A text has one list of tokens
once the blanks at its ends are gone, it is read as an expression exactly when these tokens
are derived as the expression, they have no second derivation, a call has the expressions of
its arguments in their order, however many there are, and no other property of a text
matters. -/
theorem read_iff_derivation :
    (∀ text, ∃! found, Tokenizes (Text.trim text) found) ∧
    (∀ text e, read text = .ok e ↔
      ∃ d : Derivation, Tokenizes (Text.trim text) d.tokens ∧ d.expression = e) ∧
    (∀ d d' : Derivation, d.tokens = d'.tokens → d = d') ∧
    (∀ operator arguments, (Derivation.call operator arguments).expression =
      .call operator (arguments.map Derivation.expression)) ∧
    (∀ text text' found, Tokenizes (Text.trim text) found → Tokenizes (Text.trim text') found →
      ∀ e, read text = .ok e ↔ read text' = .ok e) := by
  refine ⟨fun text => ⟨_, tokenizes_tokens _, fun found => Tokenizes.eq_tokens⟩, ?_,
    fun d d' same => Derivation.tokens_injective same, ?_, ?_⟩
  · intro text e
    simp only [read_eq_ok_iff, tokenizes_iff]
  · intro operator arguments
    rw [Derivation.expression, Derivation.expressions_eq_map]
  · intro text text' found tokenized tokenized' e
    rw [read_eq_ok_iff, read_eq_ok_iff, ← tokenized.eq_tokens, ← tokenized'.eq_tokens]

end WindowPlacement.Expression
