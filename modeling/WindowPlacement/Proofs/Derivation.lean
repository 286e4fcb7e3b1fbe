import WindowPlacement.Expression.Reader

/-!
# Derivations of expressions

A derivation is an expression together with the spelling of its numbers: a call of an
operator with any number of arguments, a measure, or a number spelled by a numeral.
`tokens` is the yield of a derivation in the grammar of expressions and `expression` is
what it derives.

No two derivations have the same tokens, and none continues another.
-/

namespace WindowPlacement

theorem Operator.ofSymbol?_eq_some_iff {symbol : String} {operator : Operator} :
    Operator.ofSymbol? symbol = some operator ↔ symbol = operator.symbol := by
  constructor
  · intro found
    have matched := List.find?_some found
    exact (beq_iff_eq.mp matched).symm
  · rintro rfl
    cases operator <;> rfl

theorem Measure.ofSymbol?_eq_some_iff {symbol : String} {m : Measure} :
    Measure.ofSymbol? symbol = some m ↔ symbol = m.symbol := by
  constructor
  · intro found
    have matched := List.find?_some found
    exact (beq_iff_eq.mp matched).symm
  · rintro rfl
    cases m <;> rfl

theorem Operator.symbol_injective : Function.Injective Operator.symbol := by
  intro first second same
  exact Option.some.inj
    ((ofSymbol?_eq_some_iff.mpr rfl).symm.trans (ofSymbol?_eq_some_iff.mpr same))

theorem Measure.symbol_injective : Function.Injective Measure.symbol := by
  intro first second same
  exact Option.some.inj
    ((ofSymbol?_eq_some_iff.mpr rfl).symm.trans (ofSymbol?_eq_some_iff.mpr same))

theorem Measure.head_symbol (m : Measure) : m.symbol.toList.head?.any Char.isDigit = false := by
  cases m <;> rfl

namespace Expression

/-- A word that starts with a digit and spells a number. -/
@[ext]
structure Numeral where
  spelling : List Char
  value : Float
  starts : spelling.head?.any Char.isDigit = true
  reads : Decimal.value? spelling = some value

theorem Numeral.eq_of_spelling_eq {first second : Numeral}
    (same : first.spelling = second.spelling) : first = second := by
  have values : first.value = second.value := by
    have read := first.reads
    rw [same, second.reads] at read
    exact (Option.some.inj read).symm
  exact Numeral.ext same values

/-- A derivation in the grammar of expressions. -/
inductive Derivation
  | call (operator : Operator) (arguments : List Derivation)
  | measure (m : Measure)
  | constant (numeral : Numeral)

namespace Derivation

mutual

def tokens : Derivation → List Token
  | .call operator arguments =>
    .opening :: .word operator.symbol.toList :: argumentTokens arguments
  | .measure m => [.word m.symbol.toList]
  | .constant numeral => [.word numeral.spelling]

/-- The tokens of the arguments of a call up to its closing parenthesis. -/
def argumentTokens : List Derivation → List Token
  | [] => [.closing]
  | argument :: rest => argument.tokens ++ argumentTokens rest

end

mutual

def expression : Derivation → Expression
  | .call operator arguments => .call operator (expressions arguments)
  | .measure m => .measure m
  | .constant numeral => .constant numeral.value

def expressions : List Derivation → List Expression
  | [] => []
  | argument :: rest => argument.expression :: expressions rest

end

theorem expressions_eq_map (arguments : List Derivation) :
    expressions arguments = arguments.map expression := by
  induction arguments with
  | nil => rfl
  | cons argument rest ih => rw [expressions, ih, List.map_cons]

theorem word_injective {first second : String}
    (same : Token.word first.toList = Token.word second.toList) : first = second :=
  String.toList_inj.mp (Token.word.inj same)

theorem tokens_measure_ne_constant {m : Measure} {numeral : Numeral} {behind behind' : List Token}
    (same : (measure m).tokens ++ behind = (constant numeral).tokens ++ behind') : False := by
  simp only [tokens, List.cons_append, List.cons.injEq, Token.word.injEq] at same
  have starts := numeral.starts
  rw [← same.1, m.head_symbol] at starts
  exact Bool.false_ne_true starts

mutual

/-- Of two derivations in front of the same tokens neither continues the other. -/
theorem tokens_append_inj : ∀ {first second : Derivation} {behind behind' : List Token},
    first.tokens ++ behind = second.tokens ++ behind' → first = second ∧ behind = behind'
  | .call operator arguments, .call operator' arguments', behind, behind', same => by
    simp only [tokens, List.cons_append, List.cons.injEq, true_and] at same
    obtain ⟨rfl, rfl⟩ := argumentTokens_append_inj same.2
    rw [Operator.symbol_injective (word_injective same.1)]
    exact ⟨rfl, rfl⟩
  | .measure m, .measure m', behind, behind', same => by
    simp only [tokens, List.cons_append, List.nil_append, List.cons.injEq] at same
    rw [Measure.symbol_injective (word_injective same.1)]
    exact ⟨rfl, same.2⟩
  | .constant numeral, .constant numeral', behind, behind', same => by
    simp only [tokens, List.cons_append, List.nil_append, List.cons.injEq,
      Token.word.injEq] at same
    rw [Numeral.eq_of_spelling_eq same.1]
    exact ⟨rfl, same.2⟩
  | .measure m, .constant numeral, behind, behind', same =>
    (tokens_measure_ne_constant same).elim
  | .constant numeral, .measure m, behind, behind', same =>
    (tokens_measure_ne_constant same.symm).elim
  | .call operator arguments, .measure m, behind, behind', same => by simp [tokens] at same
  | .call operator arguments, .constant numeral, behind, behind', same => by simp [tokens] at same
  | .measure m, .call operator arguments, behind, behind', same => by simp [tokens] at same
  | .constant numeral, .call operator arguments, behind, behind', same => by simp [tokens] at same

/-- The closing parenthesis tells where the arguments of a call end. -/
theorem argumentTokens_append_inj : ∀ {first second : List Derivation}
    {behind behind' : List Token},
    argumentTokens first ++ behind = argumentTokens second ++ behind' →
      first = second ∧ behind = behind'
  | [], [], behind, behind', same => by
    simp only [argumentTokens, List.cons_append, List.nil_append, List.cons.injEq,
      true_and] at same
    exact ⟨rfl, same⟩
  | [], argument :: rest, behind, behind', same => by
    have heads := congrArg List.head? same
    cases argument <;> simp [argumentTokens, tokens] at heads
  | argument :: rest, [], behind, behind', same => by
    have heads := congrArg List.head? same
    cases argument <;> simp [argumentTokens, tokens] at heads
  | argument :: rest, argument' :: rest', behind, behind', same => by
    simp only [argumentTokens, List.append_assoc] at same
    obtain ⟨rfl, remaining⟩ := tokens_append_inj same
    obtain ⟨rfl, rfl⟩ := argumentTokens_append_inj remaining
    exact ⟨rfl, rfl⟩

end

/-- A list of tokens has at most one derivation. -/
theorem tokens_injective : Function.Injective tokens := by
  intro first second same
  have padded : first.tokens ++ [] = second.tokens ++ [] := congrArg (· ++ []) same
  exact (tokens_append_inj padded).1

end Derivation

end Expression

end WindowPlacement
