import WindowPlacement.Proofs.RoundTrip

/-!
# Tokens taken off the front of a text

A text leaves another one behind some tokens if the tokens stand in front of it one after the
other, with nothing but blanks between them.  What a lexeme remembers is what the tokens up to it
leave, and the text in front of that has just these tokens.
-/

namespace WindowPlacement

namespace Text

theorem trimRight_eq_self_iff {s : List Char} :
    trimRight s = s ↔ ∀ nonempty : s ≠ [], isBlank (s.getLast nonempty) = false := by
  have library : trimRight s = s ↔ ∀ nonempty : s ≠ [], ¬isBlank (s.getLast nonempty) = true :=
    List.rdropWhile_eq_self_iff
  simpa using library

/-- A trimmed text has no blanks at its end, so what is at its end has none there either. -/
theorem trim_of_suffix {s left : List Char} (suffix : left <:+ trim s) :
    trim left = trimLeft left := by
  obtain ⟨front, split⟩ := suffix
  have whole : trimRight (front ++ left) = front ++ left := by
    rw [split]
    exact List.rdropWhile_idempotent isBlank (trimLeft s)
  have kept : trimRight left = left := by
    rw [trimRight_eq_self_iff]
    intro nonempty
    have ends := trimRight_eq_self_iff.mp whole (by simp [nonempty])
    rwa [List.getLast_append_of_ne_nil _ nonempty] at ends
  rw [← trimLeft_trimRight, kept]

theorem trim_eq_self {s : List Char} (starts : ∀ c ∈ s.head?, isBlank c = false)
    (ends : ∀ nonempty : s ≠ [], isBlank (s.getLast nonempty) = false) : trim s = s := by
  rw [← trimLeft_trimRight, trimRight_eq_self_iff.mpr ends, trimLeft_eq_self starts]

theorem isBlank_head_trim (s : List Char) : ∀ c ∈ (trim s).head?, isBlank c = false := by
  intro c head
  obtain ⟨rest, split⟩ := List.head?_eq_some_iff.mp (head?_trimRight head)
  exact isBlank_eq_false_of_trimLeft_eq_cons split

theorem isBlank_getLast_trim (s : List Char) : ∀ c ∈ (trim s).getLast?, isBlank c = false := by
  intro c last
  have whole : trimRight (trim s) = trim s := List.rdropWhile_idempotent isBlank (trimLeft s)
  obtain ⟨nonempty, rfl⟩ := List.mem_getLast?_eq_getLast last
  exact trimRight_eq_self_iff.mp whole nonempty

@[simp]
theorem trimLeft_trim (s : List Char) : trimLeft (trim s) = trim s :=
  trimLeft_eq_self (isBlank_head_trim s)

theorem trim_trim (s : List Char) : trim (trim s) = trim s := by
  rw [trim_of_suffix List.suffix_rfl, trimLeft_trim]

end Text

namespace Expression

def Token.characters : Token → List Char
  | .opening => ['(']
  | .closing => [')']
  | .word spelling => spelling

namespace StartsWith

variable {s rest : List Char} {token : Token}

theorem eq_append (first : StartsWith s token rest) : s = token.characters ++ rest := by
  cases first <;> rfl

theorem characters_ne_nil (first : StartsWith s token rest) : token.characters ≠ [] := by
  cases first <;> simp [Token.characters]

theorem isBlank_head (first : StartsWith s token rest) :
    ∀ c ∈ s.head?, Text.isBlank c = false := by
  cases first with
  | opening => simp; rfl
  | closing => simp; rfl
  | word starts => simpa using starts

theorem lexemes_append (first : StartsWith s token rest) {blanks : List Char}
    (skipped : ∀ c ∈ blanks, Text.isBlank c = true) :
    lexemes (blanks ++ s) = ⟨token, Text.trimLeft rest⟩ :: lexemes rest := by
  have trimmed := Text.trimLeft_append skipped first.isBlank_head
  cases first with
  | opening => rw [lexemes_of_trimLeft_eq_cons trimmed, firstToken_opening]
  | closing => rw [lexemes_of_trimLeft_eq_cons trimmed, firstToken_closing]
  | word starts within ends =>
    rw [List.cons_append] at trimmed ⊢
    rw [lexemes_of_trimLeft_eq_cons trimmed, firstToken_word within ends]

/-- What stands behind the first token of a text may be cut short. -/
theorem cut (first : StartsWith s token rest) {front : List Char} (shorter : front <+: rest) :
    StartsWith (token.characters ++ front) token front := by
  cases first with
  | opening => exact .opening front
  | closing => exact .closing front
  | word starts within ends =>
    refine .word starts within ?_
    intro c head
    obtain ⟨behind, split⟩ := shorter
    apply ends c
    cases front with
    | nil => simp at head
    | cons d letters =>
      rw [← split]
      exact head

end StartsWith

/-- A text has some tokens in front, and the second text is behind them. -/
inductive Leaves : List Char → List Token → List Char → Prop
  | nothing (s : List Char) : Leaves s [] s
  | token {blanks s rest left : List Char} {token : Token} {tokens : List Token}
      (skipped : ∀ c ∈ blanks, Text.isBlank c = true) (first : StartsWith s token rest)
      (behind : Leaves rest tokens left) : Leaves (blanks ++ s) (token :: tokens) left

namespace Leaves

variable {s left : List Char} {tokens : List Token}

theorem suffix (taken : Leaves s tokens left) : left <:+ s := by
  induction taken with
  | nothing s => exact List.suffix_rfl
  | token _ first _ ih =>
    refine ih.trans ?_
    rw [first.eq_append, ← List.append_assoc]
    exact List.suffix_append _ _

/-- The lexemes of a text are those of the tokens that are taken off and those of what is left. -/
theorem exists_spells (taken : Leaves s tokens left) (some_taken : tokens ≠ []) :
    ∃ front, lexemes s = front ++ lexemes left ∧ Spells front tokens (Text.trimLeft left) := by
  induction taken with
  | nothing s => exact absurd rfl some_taken
  | @token blanks s rest left token tokens skipped first behind ih =>
    rw [first.lexemes_append skipped]
    cases tokens with
    | nil =>
      cases behind
      exact ⟨[_], rfl, .last token _⟩
    | cons next tokens =>
      obtain ⟨front, split, spelled⟩ := ih (List.cons_ne_nil _ _)
      exact ⟨_ :: front, by rw [split, List.cons_append], .cons token _ spelled⟩

/-- The tokens of a text are those that are taken off and those of what is left. -/
theorem tokens_eq_append (taken : Leaves s tokens left) :
    Expression.tokens s = tokens ++ Expression.tokens left := by
  induction taken with
  | nothing s => rfl
  | token skipped first _ ih =>
    rw [Expression.tokens, first.lexemes_append skipped, List.map_cons, List.cons_append, ← ih]
    rfl

/-- The part of a text that the tokens are taken from has just these tokens, and it ends with the
last one of them. -/
theorem exists_front (taken : Leaves s tokens left) :
    ∃ front, s = front ++ left ∧ Tokenizes front tokens ∧ (tokens = [] → front = []) ∧
      ∀ token ∈ tokens.getLast?, token.characters <:+ front := by
  induction taken with
  | nothing s => exact ⟨[], rfl, .finish (by simp), fun _ => rfl, by simp⟩
  | @token blanks s rest left token tokens skipped first behind ih =>
    obtain ⟨front, rfl, tokenized, nothing_taken, ends⟩ := ih
    have here := first.cut (List.prefix_append front left)
    refine ⟨blanks ++ (token.characters ++ front), ?_, .of_startsWith skipped here tokenized,
      by simp, ?_⟩
    · rw [first.eq_append, List.append_assoc, List.append_assoc]
    · intro last is_last
      cases tokens with
      | nil =>
        obtain rfl : token = last := by simpa using is_last
        rw [nothing_taken rfl, List.append_nil]
        exact List.suffix_append _ _
      | cons next tokens =>
        rw [List.getLast?_cons_cons] at is_last
        exact (ends last is_last).trans
          ((List.suffix_append _ _).trans (List.suffix_append _ _))

end Leaves

theorem exists_startsWith {s : List Char} {lexeme : Lexeme} {behind : List Lexeme}
    (split : lexemes s = lexeme :: behind) :
    ∃ blanks t left, s = blanks ++ t ∧ (∀ c ∈ blanks, Text.isBlank c = true) ∧
      StartsWith t lexeme.token left ∧ Text.trimLeft left = lexeme.rest ∧
        lexemes left = behind := by
  cases trimmed : Text.trimLeft s with
  | nil => simp [lexemes_of_trimLeft_eq_nil trimmed] at split
  | cons c rest =>
    rw [lexemes_of_trimLeft_eq_cons trimmed, List.cons.injEq] at split
    obtain ⟨rfl, remaining⟩ := split
    have starts := Text.isBlank_eq_false_of_trimLeft_eq_cons trimmed
    have whole := Text.takeWhile_append_trimLeft s
    rw [trimmed] at whole
    exact ⟨_, _, _, whole.symm, fun d member => List.mem_takeWhile_imp member,
      startsWith_firstToken starts rest, rfl, remaining⟩

/-- A text is blank, or there is a first token behind the blanks in front. -/
theorem blank_or_startsWith (s : List Char) :
    (Text.trimLeft s = [] ∧ lexemes s = []) ∨ ∃ token left,
      StartsWith (Text.trimLeft s) token left ∧ left.length < s.length ∧ left <:+ s ∧
        lexemes s = ⟨token, Text.trimLeft left⟩ :: lexemes left := by
  cases found : lexemes s with
  | nil =>
    refine .inl ⟨?_, rfl⟩
    cases trimmed : Text.trimLeft s with
    | nil => rfl
    | cons c rest => simp [lexemes_of_trimLeft_eq_cons trimmed] at found
  | cons lexeme behind =>
    obtain ⟨blanks, t, left, rfl, skipped, first, remembered, rfl⟩ := exists_startsWith found
    have trimmed : Text.trimLeft (blanks ++ t) = t :=
      Text.trimLeft_append skipped first.isBlank_head
    have progress := List.length_pos_iff.mpr first.characters_ne_nil
    have whole := first.eq_append
    refine .inr ⟨lexeme.token, left, by rwa [trimmed], ?_, ?_, by rw [remembered]⟩
    · rw [whole, List.length_append, List.length_append]
      omega
    · rw [whole, ← List.append_assoc]
      exact List.suffix_append _ _

theorem Spells.leaves {front rest : List Lexeme} {tokens : List Token} {behind : List Char}
    (spelled : Spells front tokens behind) {s : List Char} (split : lexemes s = front ++ rest) :
    ∃ left, Leaves s tokens left ∧ Text.trimLeft left = behind := by
  induction spelled generalizing s with
  | last token behind =>
    obtain ⟨blanks, s, left, rfl, skipped, first, rfl, -⟩ := exists_startsWith split
    exact ⟨left, .token skipped first (.nothing left), rfl⟩
  | cons token next _ ih =>
    obtain ⟨blanks, s, left, rfl, skipped, first, rfl, remaining⟩ := exists_startsWith split
    obtain ⟨final, behind, trimmed⟩ := ih remaining
    exact ⟨final, .token skipped first behind, trimmed⟩

/-- Reading takes the tokens of a derivation off the front of a text. -/
theorem readFirst_eq_ok_iff_leaves {text rest : List Char} {e : Expression} :
    readFirst text = .ok (e, rest) ↔ ∃ (d : Derivation) (left : List Char),
      Leaves (Text.trim text) d.tokens left ∧ d.expression = e ∧ Text.trim left = rest := by
  rw [readFirst_eq_ok_iff]
  constructor
  · rintro ⟨d, front, behind, split, spelled, derived⟩
    obtain ⟨left, leaves, trimmed⟩ := spelled.leaves split
    exact ⟨d, left, leaves, derived, (Text.trim_of_suffix leaves.suffix).trans trimmed⟩
  · rintro ⟨d, left, leaves, derived, rfl⟩
    obtain ⟨front, split, spelled⟩ := leaves.exists_spells d.tokens_ne_nil
    rw [Text.trim_of_suffix leaves.suffix]
    exact ⟨d, front, lexemes left, split, spelled, derived⟩

end Expression

end WindowPlacement
