import WindowPlacement.Proofs.TakenTokens

/-!
# What reading an expression takes off a text

Reading the first expression of a text takes a part off the front of the text that reads as the
expression on its own, and leaves the text behind it without blanks at its ends.  Something is
always taken, and an expression has no more nodes than there are tokens in the part taken.
-/

namespace WindowPlacement

namespace Decimal

open Expression Text

theorem isBlank_eq_false_of_isDigit {c : Char} (digit : c.isDigit = true) :
    isBlank c = false :=
  isBlank_eq_false_of_isNumeric (.inl digit)

theorem isBlank_eq_false_of_exponent? {text : List Char} {exponent : Int}
    (reads : exponent? text = some exponent) : ∀ c ∈ text, isBlank c = false := by
  cases text with
  | nil => simp
  | cons mark rest =>
    unfold exponent? at reads
    dsimp only at reads
    split at reads
    case isFalse => contradiction
    case isTrue is_mark =>
      have mark_visible : isBlank mark = false := by
        rw [Bool.or_eq_true, beq_iff_eq, beq_iff_eq] at is_mark
        rcases is_mark with rfl | rfl <;> rfl
      rw [List.forall_mem_cons]
      refine ⟨mark_visible, ?_⟩
      have visible : ∀ (digits : List Char) (answer : Option Int),
          (if digits.isEmpty || !digits.all Char.isDigit then none else answer) = some exponent →
            ∀ c ∈ digits, isBlank c = false := by
        intro digits answer answered c member
        split at answered
        · contradiction
        · next complete =>
          simp only [Bool.or_eq_true, not_or, Bool.not_eq_true', Bool.not_eq_false,
            List.all_eq_true] at complete
          exact isBlank_eq_false_of_isDigit (complete.2 c member)
      split at reads
      · next digits => exact List.forall_mem_cons.mpr ⟨rfl, visible digits _ reads⟩
      · next digits => exact List.forall_mem_cons.mpr ⟨rfl, visible digits _ reads⟩
      · exact visible rest _ reads

theorem isBlank_eq_false_of_mem_takeWhile {text : List Char} :
    ∀ c ∈ text.takeWhile Char.isDigit, isBlank c = false := by
  intro c member
  exact isBlank_eq_false_of_isDigit (List.mem_takeWhile_imp member)

theorem isBlank_eq_false_of_value? {numeral : List Char} {value : Float}
    (reads : value? numeral = some value) : ∀ c ∈ numeral, isBlank c = false := by
  unfold value? at reads
  dsimp only at reads
  split_ifs at reads
  obtain ⟨exponent, exponent_reads, -⟩ := Option.map_eq_some_iff.mp reads
  rw [← List.takeWhile_append_dropWhile (p := Char.isDigit) (l := numeral),
    List.forall_mem_append]
  refine ⟨isBlank_eq_false_of_mem_takeWhile, ?_⟩
  split at exponent_reads
  · next fraction split =>
    rw [split, List.forall_mem_cons]
    refine ⟨rfl, ?_⟩
    rw [← List.takeWhile_append_dropWhile (p := Char.isDigit) (l := fraction),
      List.forall_mem_append]
    exact ⟨isBlank_eq_false_of_mem_takeWhile, isBlank_eq_false_of_exponent? exponent_reads⟩
  · exact isBlank_eq_false_of_exponent? exponent_reads

end Decimal

namespace Text

theorem length_trim_le (s : List Char) : (trim s).length ≤ s.length := by
  have front := trimRight_prefix (trimLeft s)
  exact front.length_le.trans (length_trimLeft_le s)

end Text

namespace Expression

mutual

def nodes : Expression → Nat
  | .call _ arguments => nodesOf arguments + 1
  | .measure _ => 1
  | .constant _ => 1

def nodesOf : List Expression → Nat
  | [] => 0
  | argument :: rest => argument.nodes + nodesOf rest

end

namespace Derivation

mutual

theorem nodes_expression_le : ∀ d : Derivation, d.expression.nodes ≤ d.tokens.length
  | .call operator arguments => by
    have within := nodesOf_expressions_le arguments
    simp only [expression, nodes, tokens, List.length_cons]
    omega
  | .measure m => Nat.le_refl _
  | .constant numeral => Nat.le_refl _

theorem nodesOf_expressions_le : ∀ arguments : List Derivation,
    nodesOf (expressions arguments) ≤ (argumentTokens arguments).length
  | [] => Nat.zero_le _
  | argument :: rest => by
    have first := nodes_expression_le argument
    have others := nodesOf_expressions_le rest
    simp only [expressions, nodesOf, argumentTokens, List.length_append]
    omega

end

theorem getLast?_argumentTokens (arguments : List Derivation) :
    (argumentTokens arguments).getLast? = some .closing := by
  induction arguments with
  | nil => rfl
  | cons argument rest ih =>
    rw [argumentTokens, List.getLast?_append, ih]
    rfl

theorem getLast?_tokens_call (operator : Operator) (arguments : List Derivation) :
    (call operator arguments).tokens.getLast? = some .closing := by
  have parts : (call operator arguments).tokens =
      [.opening, .word operator.symbol.toList] ++ argumentTokens arguments := rfl
  rw [parts, List.getLast?_append, getLast?_argumentTokens]
  rfl

/-- The last token of a derivation does not end with a blank, although words may have blanks. -/
theorem exists_last_token (d : Derivation) : ∃ token ∈ d.tokens.getLast?,
    ∃ front c, token.characters = front ++ [c] ∧ Text.isBlank c = false := by
  cases d with
  | call operator arguments =>
    exact ⟨.closing, getLast?_tokens_call operator arguments, [], ')', rfl, rfl⟩
  | measure m =>
    refine ⟨.word m.symbol.toList, rfl, ?_⟩
    cases m
    case screenWidth => exact ⟨['s'], 'w', rfl, rfl⟩
    case screenHeight => exact ⟨['s'], 'h', rfl, rfl⟩
    all_goals exact ⟨[], _, rfl, rfl⟩
  | constant numeral =>
    have nonempty : numeral.spelling ≠ [] := by
      intro empty
      have starts := numeral.starts
      simp [empty] at starts
    refine ⟨.word numeral.spelling, rfl, numeral.spelling.dropLast,
      numeral.spelling.getLast nonempty, (List.dropLast_append_getLast nonempty).symm, ?_⟩
    exact Decimal.isBlank_eq_false_of_value? numeral.reads _ (List.getLast_mem nonempty)

end Derivation

/-- What reading the first expression of a text takes off the text, and what it leaves.  The part
taken reads as the expression on its own, and a call ends with its parenthesis. -/
structure ConsumesOne (text : List Char) (e : Expression) (rest : List Char) : Prop where
  suffix : rest <:+ Text.trim text
  no_blank_in_front : ∀ c ∈ rest.head?, Text.isBlank c = false
  no_blank_at_end : ∀ c ∈ rest.getLast?, Text.isBlank c = false
  shorter : rest.length < text.length
  taken : ∃ consumed blanks, Text.trim text = consumed ++ blanks ++ rest ∧ consumed ≠ [] ∧
    (∀ c ∈ blanks, Text.isBlank c = true) ∧ read consumed = .ok e ∧
    (∀ operator arguments, e = .call operator arguments → consumed.getLast? = some ')') ∧
    e.nodes ≤ (tokens consumed).length

/-- The part of a trimmed text that the tokens of a derivation are taken from reads as the
expression of the derivation. -/
theorem Leaves.exists_consumed {text left : List Char} {d : Derivation}
    (leaves : Leaves (Text.trim text) d.tokens left) :
    ∃ consumed, Text.trim text = consumed ++ left ∧ consumed ≠ [] ∧
      tokens consumed = d.tokens ∧ read consumed = .ok d.expression ∧
      ∀ token ∈ d.tokens.getLast?, token.characters <:+ consumed := by
  obtain ⟨consumed, whole, tokenized, -, ends⟩ := leaves.exists_front
  obtain ⟨last, is_last, front, c, written, visible⟩ := d.exists_last_token
  obtain ⟨before, split⟩ := ends last is_last
  rw [written, ← List.append_assoc] at split
  have nonempty : consumed ≠ [] := by
    rw [← split]
    simp
  have trimmed : Text.trim consumed = consumed := by
    apply Text.trim_eq_self
    · intro first head
      apply Text.isBlank_head_trim text
      rw [whole, List.head?_append_of_ne_nil _ nonempty]
      exact head
    · intro _
      simpa [← split] using visible
  refine ⟨consumed, whole, nonempty, tokenized.eq_tokens.symm, ?_, ends⟩
  exact read_eq_ok_iff.mpr ⟨d, by rw [trimmed, tokenized.eq_tokens], rfl⟩

theorem consumesOne_of_readFirst {text rest : List Char} {e : Expression}
    (succeeded : readFirst text = .ok (e, rest)) : ConsumesOne text e rest := by
  obtain ⟨d, left, leaves, rfl, trimmed_rest⟩ := readFirst_eq_ok_iff_leaves.mp succeeded
  obtain ⟨consumed, whole, nonempty, spelled, reads, ends⟩ := leaves.exists_consumed
  have trimmed : Text.trimLeft left = rest :=
    (Text.trim_of_suffix leaves.suffix).symm.trans trimmed_rest
  have split_left := Text.takeWhile_append_trimLeft left
  rw [trimmed] at split_left
  have parts : Text.trim text = consumed ++ left.takeWhile Text.isBlank ++ rest := by
    rw [whole, List.append_assoc, split_left]
  refine ⟨⟨_, parts.symm⟩, ?_, ?_, ?_, consumed, left.takeWhile Text.isBlank, parts, nonempty,
    fun c member => List.mem_takeWhile_imp member, reads, ?_, ?_⟩
  · rw [← trimmed_rest]
    exact Text.isBlank_head_trim left
  · rw [← trimmed_rest]
    exact Text.isBlank_getLast_trim left
  · have shorter := Text.length_trim_le text
    have progress := List.length_pos_iff.mpr nonempty
    rw [parts, List.length_append, List.length_append] at shorter
    omega
  · rintro operator arguments called
    cases d with
    | call operator arguments =>
      obtain ⟨before, split⟩ := ends .closing (Derivation.getLast?_tokens_call _ _)
      rw [← split, Token.characters, List.getLast?_concat]
    | measure m => cases called
    | constant numeral => cases called
  · rw [spelled]
    exact d.nodes_expression_le

end Expression

end WindowPlacement
