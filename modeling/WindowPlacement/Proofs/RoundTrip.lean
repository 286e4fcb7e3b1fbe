import Mathlib.Data.List.DropRight
import WindowPlacement.Proofs.Grammar
import WindowPlacement.Proofs.Numerals

/-!
# Writing and reading expressions

The text of an expression has the tokens of a derivation of the expression, whatever follows
the text, as long as it ends words.  So reading undoes writing, on a whole text as well as in
front of more text.  Numbers with a sign have no numeral, and only expressions without them
are ever read, so writing and reading are inverse to each other on just these expressions.
-/

namespace WindowPlacement

namespace Text

theorem trimRight_prefix (s : List Char) : trimRight s <+: s :=
  List.rdropWhile_prefix isBlank s

theorem trimRight_eq_nil_iff {s : List Char} : trimRight s = [] ↔ ∀ c ∈ s, isBlank c = true :=
  List.rdropWhile_eq_nil_iff

theorem trimRight_append_of_ne_nil {t : List Char} (nonempty : trimRight t ≠ [])
    (s : List Char) : trimRight (s ++ t) = s ++ trimRight t := by
  unfold trimRight at nonempty ⊢
  rw [List.reverse_append, List.dropWhile_append, if_neg (by simpa using nonempty),
    List.reverse_append, List.reverse_reverse]

theorem trimRight_append_of_eq_nil {t : List Char} (blank : trimRight t = []) (s : List Char) :
    trimRight (s ++ t) = trimRight s := by
  unfold trimRight at blank ⊢
  rw [List.reverse_append, List.dropWhile_append, if_pos (by simpa using blank)]

theorem trimRight_append_of_getLast {s : List Char} (ends : ∀ c ∈ s.getLast?, isBlank c = false)
    (t : List Char) : trimRight (s ++ t) = s ++ trimRight t := by
  by_cases blank : trimRight t = []
  · have kept : trimLeft s.reverse = s.reverse := trimLeft_eq_self (by simpa using ends)
    rw [trimRight_append_of_eq_nil blank, blank, List.append_nil, trimRight, ← trimLeft, kept,
      List.reverse_reverse]
  · exact trimRight_append_of_ne_nil blank s

theorem head?_trimRight {s : List Char} {c : Char} (head : c ∈ (trimRight s).head?) :
    c ∈ s.head? := by
  obtain ⟨behind, split⟩ := trimRight_prefix s
  cases kept : trimRight s with
  | nil => simp [kept] at head
  | cons d rest =>
    rw [kept] at head split
    rw [← split]
    exact head

theorem trimLeft_trimRight (s : List Char) : trimLeft (trimRight s) = trim s := by
  have split := takeWhile_append_trimLeft s
  have skipped : ∀ c ∈ s.takeWhile isBlank, isBlank c = true :=
    fun c member => List.mem_takeWhile_imp member
  have starts : ∀ c ∈ (trimLeft s).head?, isBlank c = false := by
    intro c head
    obtain ⟨rest, kept⟩ := List.head?_eq_some_iff.mp head
    exact isBlank_eq_false_of_trimLeft_eq_cons kept
  unfold trim
  by_cases blank : trimRight (trimLeft s) = []
  · have all_blank : ∀ c ∈ s, isBlank c = true := by
      intro c member
      rw [← split] at member
      rcases List.mem_append.mp member with front | behind
      · exact skipped c front
      · exact trimRight_eq_nil_iff.mp blank c behind
    rw [blank, trimRight_eq_nil_iff.mpr all_blank]
    rfl
  · have whole := trimRight_append_of_ne_nil blank (s.takeWhile isBlank)
    rw [split] at whole
    rw [whole]
    exact trimLeft_append skipped fun c head => starts c (head?_trimRight head)

end Text

namespace Expression

mutual

def constants : Expression → List Float
  | .call _ arguments => argumentConstants arguments
  | .measure _ => []
  | .constant value => [value]

def argumentConstants : List Expression → List Float
  | [] => []
  | argument :: rest => argument.constants ++ argumentConstants rest

end

/-- An expression with no number that has a sign or is none. -/
def IsUnsigned (e : Expression) : Prop :=
  ∀ value ∈ e.constants, Decimal.IsUnsigned value

/-- A text that is one word: it starts with no blank, and nothing in it ends words. -/
def isWord (text : List Char) : Bool :=
  text.head?.any (fun c => !Text.isBlank c) && text.all fun c => !endsWord c

/-- A text that has the given tokens in front of whatever ends words. -/
def SpellsInFront (text : List Char) (tokens : List Token) : Prop :=
  ∀ tail : List Char, (∀ c ∈ tail.head?, endsWord c = true) → ∃ front,
    lexemes (text ++ tail) = front ++ lexemes tail ∧ Spells front tokens (Text.trimLeft tail)

namespace SpellsInFront

variable {text text' : List Char} {tokens tokens' : List Token}

theorem append (spelled : SpellsInFront text tokens) (spelled' : SpellsInFront text' tokens')
    (ends : ∀ c ∈ text'.head?, endsWord c = true) (nonempty : text' ≠ []) :
    SpellsInFront (text ++ text') (tokens ++ tokens') := by
  intro tail tail_ends
  obtain ⟨front', split', spells'⟩ := spelled' tail tail_ends
  have tail'_ends : ∀ c ∈ (text' ++ tail).head?, endsWord c = true := by
    rw [List.head?_append_of_ne_nil _ nonempty]
    exact ends
  obtain ⟨front, split, spells⟩ := spelled (text' ++ tail) tail'_ends
  refine ⟨front ++ front', ?_, spells.append spells'⟩
  rw [List.append_assoc, split, split', List.append_assoc]

theorem blank (spelled : SpellsInFront text tokens) : SpellsInFront (' ' :: text) tokens := by
  intro tail tail_ends
  obtain ⟨front, split, spells⟩ := spelled tail tail_ends
  refine ⟨front, ?_, spells⟩
  rw [← split, ← lexemes_trimLeft (text ++ tail), ← lexemes_trimLeft (' ' :: text ++ tail)]
  rfl

theorem opening (spelled : SpellsInFront text tokens) :
    SpellsInFront ('(' :: text) (.opening :: tokens) := by
  intro tail tail_ends
  obtain ⟨front, split, spells⟩ := spelled tail tail_ends
  refine ⟨⟨.opening, Text.trimLeft (text ++ tail)⟩ :: front, ?_, .cons _ _ spells⟩
  rw [List.cons_append, lexemes_of_trimLeft_eq_cons rfl, firstToken_opening, split]
  rfl

theorem closing : SpellsInFront [')'] [.closing] := by
  intro tail _
  refine ⟨[⟨.closing, Text.trimLeft tail⟩], ?_, .last _ _⟩
  rw [List.singleton_append, lexemes_of_trimLeft_eq_cons rfl, firstToken_closing]
  rfl

theorem word {spelling : List Char} (is_word : isWord spelling = true) :
    SpellsInFront spelling [.word spelling] := by
  intro tail tail_ends
  refine ⟨[⟨.word spelling, Text.trimLeft tail⟩], ?_, .last _ _⟩
  rw [isWord, Bool.and_eq_true, List.all_eq_true] at is_word
  obtain ⟨starts, within⟩ := is_word
  cases spelling with
  | nil => simp at starts
  | cons first letters =>
    have trimmed : Text.trimLeft (first :: letters ++ tail) = first :: (letters ++ tail) :=
      Text.trimLeft_eq_self (by simpa using starts)
    rw [lexemes_of_trimLeft_eq_cons trimmed,
      firstToken_word (fun c member => by simpa using within c member) tail_ends]
    rfl

end SpellsInFront

theorem isWord_operator (operator : Operator) : isWord operator.symbol.toList = true := by
  cases operator <;> rfl

theorem isWord_measure (m : Measure) : isWord m.symbol.toList = true := by
  cases m <;> rfl

/-- The numeral of a number without a sign is a word. -/
theorem isWord_numeral {value : Float} (unsigned : Decimal.IsUnsigned value) :
    isWord (numeral value) = true := by
  obtain ⟨starts, numeric⟩ := numeral_numeric unsigned
  rw [isWord, Bool.and_eq_true, List.all_eq_true]
  constructor
  · cases written : numeral value with
    | nil => simp [written] at starts
    | cons first letters =>
      have first_numeric := numeric first (by simp [written])
      simp [isBlank_eq_false_of_isNumeric first_numeric]
  · intro c member
    simp [endsWord_eq_false_of_isNumeric (numeric c member)]

theorem head_renderArguments (arguments : List Expression) :
    ∀ c ∈ (renderArguments arguments).head?, endsWord c = true := by
  cases arguments <;> simp [renderArguments, endsWord]

theorem renderArguments_ne_nil (arguments : List Expression) : renderArguments arguments ≠ [] := by
  cases arguments <;> simp [renderArguments]

mutual

/-- The text of an expression without signs has the tokens of a derivation of the
expression. -/
theorem exists_derivation_of_isUnsigned : ∀ (e : Expression), e.IsUnsigned →
    ∃ d : Derivation, d.expression = e ∧ SpellsInFront e.render d.tokens
  | .call operator arguments, unsigned => by
    obtain ⟨derivations, derived, spelled⟩ :=
      exists_derivations_of_isUnsigned arguments unsigned
    refine ⟨.call operator derivations, by rw [Derivation.expression, derived], ?_⟩
    rw [render, Derivation.tokens]
    exact .opening ((SpellsInFront.word (isWord_operator operator)).append spelled
      (head_renderArguments arguments) (renderArguments_ne_nil arguments))
  | .measure m, _ => ⟨.measure m, rfl, .word (isWord_measure m)⟩
  | .constant value, unsigned => by
    have value_unsigned : Decimal.IsUnsigned value := unsigned value (by simp [constants])
    have starts := (numeral_numeric value_unsigned).1
    exact ⟨.constant ⟨numeral value, value, starts, value?_numeral value_unsigned⟩, rfl,
      .word (isWord_numeral value_unsigned)⟩

theorem exists_derivations_of_isUnsigned : ∀ (arguments : List Expression),
    (∀ value ∈ argumentConstants arguments, Decimal.IsUnsigned value) →
      ∃ derivations, Derivation.expressions derivations = arguments ∧
        SpellsInFront (renderArguments arguments) (Derivation.argumentTokens derivations)
  | [], _ => ⟨[], rfl, .closing⟩
  | argument :: arguments, unsigned => by
    obtain ⟨d, derived, spelled⟩ := exists_derivation_of_isUnsigned argument
      fun value member => unsigned value (by simp [argumentConstants, member])
    obtain ⟨derivations, derived', spelled'⟩ := exists_derivations_of_isUnsigned arguments
      fun value member => unsigned value (by simp [argumentConstants, member])
    refine ⟨d :: derivations, by rw [Derivation.expressions, derived, derived'], ?_⟩
    rw [renderArguments, Derivation.argumentTokens]
    exact (spelled.append spelled' (head_renderArguments arguments)
      (renderArguments_ne_nil arguments)).blank

end

theorem getLast?_renderArguments (arguments : List Expression) :
    (renderArguments arguments).getLast? = some ')' := by
  induction arguments with
  | nil => rfl
  | cons argument rest ih =>
    rw [renderArguments, List.getLast?_append, ih]
    rfl

/-- The text of an expression without signs is not empty and has no blank at its ends. -/
theorem ends_render {e : Expression} (unsigned : e.IsUnsigned) : e.render ≠ [] ∧
    (∀ c ∈ e.render.head?, Text.isBlank c = false) ∧
      ∀ c ∈ e.render.getLast?, Text.isBlank c = false := by
  cases e with
  | call operator arguments =>
    rw [render]
    refine ⟨by simp, by simp [Text.isBlank], ?_⟩
    rw [List.getLast?_append, getLast?_renderArguments]
    simp [Text.isBlank]
  | measure m => cases m <;> simp [render, Measure.symbol, Text.isBlank]
  | constant value =>
    obtain ⟨starts, numeric⟩ := numeral_numeric (unsigned value (by simp [constants]))
    rw [render]
    refine ⟨?_, ?_, ?_⟩
    · intro empty
      simp [empty] at starts
    · intro c head
      exact isBlank_eq_false_of_isNumeric (numeric c (List.mem_of_mem_head? head))
    · intro c last
      exact isBlank_eq_false_of_isNumeric (numeric c (List.mem_of_mem_getLast? last))

/-- Reading the text of an expression without signs in front of anything that ends words
gives the expression, and what is behind the text without the blanks at its ends. -/
theorem readFirst_render {e : Expression} (unsigned : e.IsUnsigned) {tail : List Char}
    (ends : ∀ c ∈ tail.head?, endsWord c = true) :
    readFirst (e.render ++ tail) = .ok (e, Text.trim tail) := by
  obtain ⟨d, derived, spelled⟩ := exists_derivation_of_isUnsigned e unsigned
  obtain ⟨nonempty, no_blank_in_front, no_blank_at_end⟩ := ends_render unsigned
  have trimmed : Text.trim (e.render ++ tail) = e.render ++ Text.trimRight tail := by
    rw [← Text.trimLeft_trimRight, Text.trimRight_append_of_getLast no_blank_at_end]
    apply Text.trimLeft_eq_self
    rwa [List.head?_append_of_ne_nil _ nonempty]
  obtain ⟨front, split, spells⟩ :=
    spelled (Text.trimRight tail) fun c head => ends c (Text.head?_trimRight head)
  rw [← trimmed] at split
  rw [Text.trimLeft_trimRight] at spells
  exact readFirst_eq_ok_iff.mpr ⟨d, front, _, split, spells, derived⟩

theorem read_render {e : Expression} (unsigned : e.IsUnsigned) : read e.render = .ok e := by
  have first := readFirst_render unsigned (by simp : ∀ c ∈ [].head?, endsWord c = true)
  rw [List.append_nil] at first
  rw [read, first]
  rfl

mutual

theorem Derivation.isUnsigned_expression : ∀ d : Derivation, d.expression.IsUnsigned
  | .call _ arguments => Derivation.isUnsigned_expressions arguments
  | .measure _ => by simp [IsUnsigned, Derivation.expression, constants]
  | .constant numeral => by
    simpa [IsUnsigned, Derivation.expression, constants] using
      Decimal.isUnsigned_of_value? numeral.reads

theorem Derivation.isUnsigned_expressions : ∀ arguments : List Derivation,
    ∀ value ∈ argumentConstants (Derivation.expressions arguments), Decimal.IsUnsigned value
  | [] => by simp [Derivation.expressions, argumentConstants]
  | argument :: rest => by
    intro value member
    rw [Derivation.expressions, argumentConstants, List.mem_append] at member
    rcases member with here | there
    · exact argument.isUnsigned_expression value here
    · exact Derivation.isUnsigned_expressions rest value there

end

/-- Only expressions without signs are ever read. -/
theorem isUnsigned_of_read {text : List Char} {e : Expression} (succeeded : read text = .ok e) :
    e.IsUnsigned := by
  obtain ⟨d, _, rfl⟩ := read_eq_ok_iff.mp succeeded
  exact d.isUnsigned_expression

/-- Writing and reading are inverse to each other on the expressions without signs, and on no
others.  The text of such an expression reads back as the expression in front of anything
that ends words and on its own, what is read is such an expression and survives writing and
reading, and so the expressions that some text reads as are exactly these. -/
theorem render_read_inverse :
    (∀ (e : Expression) (tail : List Char), e.IsUnsigned →
      (∀ c ∈ tail.head?, endsWord c = true) →
        readFirst (e.render ++ tail) = .ok (e, Text.trim tail)) ∧
    (∀ e : Expression, e.IsUnsigned → read e.render = .ok e) ∧
    (∀ (text : List Char) (e : Expression), read text = .ok e →
      e.IsUnsigned ∧ read e.render = .ok e) ∧
    (∀ e : Expression, (∃ text, read text = .ok e) ↔ e.IsUnsigned) := by
  refine ⟨fun e tail unsigned ends => readFirst_render unsigned ends,
    fun e unsigned => read_render unsigned, ?_, ?_⟩
  · intro text e succeeded
    have unsigned := isUnsigned_of_read succeeded
    exact ⟨unsigned, read_render unsigned⟩
  · intro e
    constructor
    · rintro ⟨text, succeeded⟩
      exact isUnsigned_of_read succeeded
    · intro unsigned
      exact ⟨e.render, read_render unsigned⟩

end Expression

end WindowPlacement
