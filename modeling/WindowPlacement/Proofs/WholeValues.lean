import WindowPlacement.Proofs.Extremes
import WindowPlacement.Proofs.Translation
import WindowPlacement.Proofs.WholeArithmetic

/-!
# Expressions with whole values

Expressions of measures and whole numbers, without a division, stand for whole numbers.  As long as
these and those of all their parts are at most two to the power of 53, nothing is ever rounded: an
expression is evaluated to the whole number that it stands for.  As a dimension of a window that
number is only clamped, before the corner of the head is added or the decorations are taken off.
-/

namespace WindowPlacement

/-- The whole number that a value is, if it is one. -/
def wholeNumber? (value : Float) : Option ℤ :=
  (rational? value).bind fun x => if x.isInt then some x.num else none

theorem wholeNumber?_eq_some_iff {value : Float} {n : ℤ} :
    wholeNumber? value = some n ↔ rational? value = some (n : ℚ) := by
  rw [wholeNumber?]
  cases rational? value with
  | none => simp
  | some x =>
    simp only [Option.bind_some, Option.ite_none_right_eq_some, Option.some.injEq]
    constructor
    · rintro ⟨whole, rfl⟩
      exact (Rat.den_eq_one_iff x).mp (beq_iff_eq.mp whole) |>.symm
    · rintro rfl
      exact ⟨rfl, Rat.num_intCast n⟩

namespace Operator

/-- What an operator gives for whole numbers; there is no division among them. -/
def wholeResult? : Operator → List ℤ → Option ℤ
  | .add, [a, b] => some (a + b)
  | .sub, [a, b] => some (a - b)
  | .mul, [a, b] => some (a * b)
  | .min, a :: b :: rest => (a :: b :: rest).min?
  | .max, a :: b :: rest => (a :: b :: rest).max?
  | _, _ => none

end Operator

namespace Expression

mutual

/-- The whole number that an expression stands for. -/
def wholeValue? (s : Surroundings) : Expression → Option ℤ
  | .constant value => wholeNumber? value
  | .measure m => some (s.value m)
  | .call operator arguments => (wholeValues? s arguments).bind operator.wholeResult?

def wholeValues? (s : Surroundings) : List Expression → Option (List ℤ)
  | [] => some []
  | argument :: rest =>
    (argument.wholeValue? s).bind fun n => (wholeValues? s rest).map fun others => n :: others

end

mutual

def parts : Expression → List Expression
  | .constant value => [.constant value]
  | .measure m => [.measure m]
  | .call operator arguments => .call operator arguments :: partsOf arguments

def partsOf : List Expression → List Expression
  | [] => []
  | argument :: rest => argument.parts ++ partsOf rest

end

theorem mem_parts (e : Expression) : e ∈ e.parts := by
  cases e <;> simp [parts]

/-- A part can have a whole value: it is a measure, a whole number, or a call that is not a division
and has as many arguments as its operator takes. -/
def IsWholePart : Expression → Prop
  | .constant value => (wholeNumber? value).isSome
  | .measure _ => True
  | .call operator arguments => operator ≠ .div ∧ operator.Takes arguments.length

instance : DecidablePred IsWholePart
  | .constant value => inferInstanceAs (Decidable ((wholeNumber? value).isSome = true))
  | .measure _ => .isTrue trivial
  | .call operator arguments =>
    inferInstanceAs (Decidable (operator ≠ .div ∧ operator.Takes arguments.length))

/-- If a part stands for a whole number, the number is at most two to the power of 53. -/
def IsSmallPart (s : Surroundings) (part : Expression) : Prop :=
  ∀ n ∈ part.wholeValue? s, n.natAbs ≤ 2 ^ 53

instance (s : Surroundings) : DecidablePred (IsSmallPart s) :=
  fun part => inferInstanceAs (Decidable (∀ n ∈ part.wholeValue? s, n.natAbs ≤ 2 ^ 53))

end Expression

def AreWhole (values : List Float) (numbers : List ℤ) : Prop :=
  List.Forall₂ (fun value n => wholeNumber? value = some n) values numbers

section Operators

variable {a b : Float} {m n : ℤ}

theorem wholeNumber?_add (at_a : wholeNumber? a = some m) (at_b : wholeNumber? b = some n)
    (bounded : (m + n).natAbs ≤ 2 ^ 53) : wholeNumber? (a + b) = some (m + n) := by
  rw [wholeNumber?_eq_some_iff] at *
  exact rational?_add at_a at_b bounded (Int.cast_add m n).symm

theorem wholeNumber?_sub (at_a : wholeNumber? a = some m) (at_b : wholeNumber? b = some n)
    (bounded : (m - n).natAbs ≤ 2 ^ 53) : wholeNumber? (a - b) = some (m - n) := by
  rw [wholeNumber?_eq_some_iff] at *
  exact rational?_sub at_a at_b bounded (Int.cast_sub m n).symm

theorem wholeNumber?_mul (at_a : wholeNumber? a = some m) (at_b : wholeNumber? b = some n)
    (bounded : (m * n).natAbs ≤ 2 ^ 53) : wholeNumber? (a * b) = some (m * n) := by
  rw [wholeNumber?_eq_some_iff] at *
  exact rational?_mul at_a at_b bounded (Int.cast_mul m n).symm

theorem wholeNumber?_keepBetter_lt (at_a : wholeNumber? a = some m)
    (at_b : wholeNumber? b = some n) :
    wholeNumber? (keepBetter (· < ·) a b) = some (min m n) := by
  have compared := lt_iff_of_rational? (wholeNumber?_eq_some_iff.mp at_b)
    (wholeNumber?_eq_some_iff.mp at_a)
  rw [Int.cast_lt] at compared
  rw [keepBetter]
  split_ifs with less
  · rw [at_b, min_eq_right (compared.mp less).le]
  · rw [at_a, min_eq_left (not_lt.mp fun less' => less (compared.mpr less'))]

theorem wholeNumber?_keepBetter_gt (at_a : wholeNumber? a = some m)
    (at_b : wholeNumber? b = some n) :
    wholeNumber? (keepBetter (fun a b => b < a) a b) = some (max m n) := by
  have compared := lt_iff_of_rational? (wholeNumber?_eq_some_iff.mp at_a)
    (wholeNumber?_eq_some_iff.mp at_b)
  rw [Int.cast_lt] at compared
  rw [keepBetter]
  split_ifs with greater
  · rw [at_b, max_eq_right (compared.mp greater).le]
  · rw [at_a, max_eq_left (not_lt.mp fun greater' => greater (compared.mpr greater'))]

theorem wholeNumber?_foldl {keep : Float → Float → Float} {choose : ℤ → ℤ → ℤ}
    (step : ∀ {a b m n}, wholeNumber? a = some m → wholeNumber? b = some n →
      wholeNumber? (keep a b) = some (choose m n))
    {values : List Float} {numbers : List ℤ} (whole : AreWhole values numbers)
    (at_a : wholeNumber? a = some m) :
    wholeNumber? (values.foldl keep a) = some (numbers.foldl choose m) := by
  induction whole generalizing a m with
  | nil => exact at_a
  | cons at_value _ ih => exact ih (step at_a at_value)

namespace Operator

theorem apply_of_wholeResult? {operator : Operator} {values : List Float} {numbers : List ℤ}
    (whole : AreWhole values numbers) (result : operator.wholeResult? numbers = some n)
    (bounded : n.natAbs ≤ 2 ^ 53) :
    ∃ value, operator.apply values = .ok value ∧ wholeNumber? value = some n := by
  rcases whole with _ | ⟨first, _ | ⟨second, others⟩⟩
  · cases operator <;> cases result
  · cases operator <;> cases result
  · cases operator with
    | add =>
      cases others with
      | cons => cases result
      | nil =>
        obtain rfl := Option.some.inj result
        exact ⟨_, rfl, wholeNumber?_add first second bounded⟩
    | sub =>
      cases others with
      | cons => cases result
      | nil =>
        obtain rfl := Option.some.inj result
        exact ⟨_, rfl, wholeNumber?_sub first second bounded⟩
    | mul =>
      cases others with
      | cons => cases result
      | nil =>
        obtain rfl := Option.some.inj result
        exact ⟨_, rfl, wholeNumber?_mul first second bounded⟩
    | div => cases result
    | min =>
      rw [wholeResult?, List.min?_cons', Option.some.injEq] at result
      obtain rfl := result
      exact ⟨_, keepsBetter_min _ _ _,
        wholeNumber?_foldl wholeNumber?_keepBetter_lt (.cons second others) first⟩
    | max =>
      rw [wholeResult?, List.max?_cons', Option.some.injEq] at result
      obtain rfl := result
      exact ⟨_, keepsBetter_max _ _ _,
        wholeNumber?_foldl wholeNumber?_keepBetter_gt (.cons second others) first⟩

theorem exists_wholeResult? {operator : Operator} (no_division : operator ≠ .div)
    {numbers : List ℤ} (takes : operator.Takes numbers.length) :
    ∃ n, operator.wholeResult? numbers = some n := by
  rcases numbers with _ | ⟨a, _ | ⟨b, rest⟩⟩
  · exact absurd takes.two_le (by simp)
  · exact absurd takes.two_le (by simp)
  · cases operator with
    | div => exact absurd rfl no_division
    | min => exact ⟨_, List.min?_cons'⟩
    | max => exact ⟨_, List.max?_cons'⟩
    | add | sub | mul =>
      obtain rfl : rest = [] := by simpa [Takes] using takes
      exact ⟨_, rfl⟩

end Operator

end Operators

namespace Expression

variable {s : Surroundings}

mutual

/-- An expression is evaluated to the whole number that it stands for. -/
theorem eval_of_whole : ∀ {e : Expression}, (∀ part ∈ e.parts, part.IsWholePart) →
    (∀ part ∈ e.parts, part.IsSmallPart s) →
    ∃ n value, e.wholeValue? s = some n ∧ e.eval s = .ok value ∧ wholeNumber? value = some n
  | .constant value, whole, _ => by
    obtain ⟨n, is_whole⟩ := Option.isSome_iff_exists.mp (whole _ (mem_parts _))
    exact ⟨n, value, by rw [wholeValue?, is_whole], by rw [eval], is_whole⟩
  | .measure m, _, small => by
    have value_eq : (measure m).wholeValue? s = some (s.value m) := by rw [wholeValue?]
    have bounded := small _ (mem_parts _) (s.value m) value_eq
    exact ⟨s.value m, _, value_eq, by rw [eval],
      wholeNumber?_eq_some_iff.mpr (rational?_ofInt bounded)⟩
  | .call operator arguments, whole, small => by
    obtain ⟨no_division, takes⟩ := whole _ (mem_parts _)
    have inside : ∀ part ∈ partsOf arguments, part ∈ (call operator arguments).parts := by
      intro part member
      rw [parts]
      exact List.mem_cons_of_mem _ member
    obtain ⟨numbers, values, valued, evaluated, are_whole⟩ := evalArguments_of_whole
      (fun part member => whole part (inside part member))
      (fun part member => small part (inside part member))
    have count : numbers.length = arguments.length :=
      are_whole.length_eq.symm.trans (length_of_evalArguments evaluated)
    rw [← count] at takes
    -- The arguments are exact because their own parts are small; the last step is exact because the
    -- call itself is.
    obtain ⟨n, result⟩ := Operator.exists_wholeResult? no_division takes
    have value_eq : (call operator arguments).wholeValue? s = some n := by
      rw [wholeValue?, valued, Option.bind_some, result]
    have bounded := small _ (mem_parts _) n value_eq
    obtain ⟨value, applied, is_whole⟩ :=
      Operator.apply_of_wholeResult? are_whole result bounded
    refine ⟨n, value, value_eq, ?_, is_whole⟩
    rw [eval, evaluated]
    exact applied

theorem evalArguments_of_whole : ∀ {arguments : List Expression},
    (∀ part ∈ partsOf arguments, part.IsWholePart) →
    (∀ part ∈ partsOf arguments, part.IsSmallPart s) →
    ∃ numbers values, wholeValues? s arguments = some numbers ∧
      evalArguments s arguments = .ok values ∧ AreWhole values numbers
  | [], _, _ => ⟨[], [], by rw [wholeValues?], by rw [evalArguments], .nil⟩
  | argument :: rest, whole, small => by
    rw [partsOf, List.forall_mem_append] at whole small
    obtain ⟨n, value, valued, evaluated, is_whole⟩ := eval_of_whole whole.1 small.1
    obtain ⟨numbers, values, valued', evaluated', are_whole⟩ :=
      evalArguments_of_whole whole.2 small.2
    refine ⟨n :: numbers, value :: values, ?_, ?_, .cons is_whole are_whole⟩
    · rw [wholeValues?, valued, valued', Option.bind_some, Option.map_some]
    · rw [evalArguments, evaluated, evaluated']

end

end Expression

namespace Placement

/-- A placement gives a whole number to a dimension of a window, and it asks for it. -/
structure Requests (p : Placement) (window head : Rect) (extents : FrameExtents)
    (dimension : Dimension) (n : ℤ) : Prop where
  value : p.valueOf (.ofWindow window head) dimension = .ok (saturate n)
  target : ∀ target, p.target window head extents = .ok target →
    target.get dimension = requested head extents (saturate n) dimension
  blameless : ∀ failure, p.target window head extents = .error failure →
    ∃ other e, other ≠ dimension ∧ p.get other = some e ∧
      e.eval (.ofWindow window head) = .error failure

variable {p : Placement} {window head : Rect} {extents : FrameExtents} {dimension : Dimension}
  {n : ℤ}

theorem exists_failing_of_target_eq_error {failure : ArityMismatch}
    (failed : p.target window head extents = .error failure) :
    ∃ other e, p.get other = some e ∧ e.eval (.ofWindow window head) = .error failure := by
  rw [← failure?_eq_some_iff, failure?_target] at failed
  obtain ⟨other, -, blamed⟩ := List.exists_of_findSome?_eq_some failed
  rw [failure?_eq_some_iff, valueOf] at blamed
  cases chosen : p.get other with
  | none =>
    rw [chosen] at blamed
    cases blamed
  | some e =>
    rw [chosen] at blamed
    cases evaluated : e.eval (.ofWindow window head) with
    | ok value => simp only [evaluated, reduceCtorEq] at blamed
    | error failure' =>
      simp only [evaluated, Except.error.injEq] at blamed
      exact ⟨other, e, chosen, by rw [evaluated, blamed]⟩

theorem requests_of_wholeNumber? {e : Expression} {value : Float}
    (chosen : p.get dimension = some e)
    (evaluated : e.eval (.ofWindow window head) = .ok value)
    (whole : wholeNumber? value = some n) : p.Requests window head extents dimension n := by
  have given : p.valueOf (.ofWindow window head) dimension = .ok (saturate n) := by
    have counted := coordinateOf_of_rational? (wholeNumber?_eq_some_iff.mp whole)
    simp only [valueOf, chosen, evaluated, counted]
  refine ⟨given, fun target aimed => ?_, fun failure failed => ?_⟩
  · obtain ⟨n', given', at_dimension⟩ := exists_value_of_target_eq_ok aimed dimension
    rw [given, Except.ok.injEq] at given'
    rw [at_dimension, given']
  · obtain ⟨other, e', chosen', failed'⟩ := exists_failing_of_target_eq_error failed
    refine ⟨other, e', ?_, chosen', failed'⟩
    rintro rfl
    obtain rfl : e = e' := Option.some.inj (chosen.symm.trans chosen')
    rw [evaluated] at failed'
    cases failed'

end Placement

def hugeWidth : Expression :=
  .call .max [.call .mul [.measure .width, .constant 4000000.0],
    .call .sub [.measure .screenWidth, .measure .width]]

end WindowPlacement
