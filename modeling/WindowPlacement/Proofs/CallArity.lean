import WindowPlacement.Placement.Target

/-!
# Expressions without a value

Whether a call has as many arguments as its operator takes shows in the expression alone.  So an
expression has a value in all surroundings or in none, and where it has none the same call is to
blame: of the calls with a wrong number of arguments the one that is evaluated first.  A placement
fails by the first of its expressions that has no value.
-/

namespace WindowPlacement

def failure? {Failure α : Type} : Except Failure α → Option Failure
  | .ok _ => none
  | .error failure => some failure

section Failures

variable {Failure α : Type} {result : Except Failure α}

theorem failure?_eq_some_iff {failure : Failure} :
    failure? result = some failure ↔ result = .error failure := by
  cases result <;> simp [failure?]

theorem failure?_eq_none_iff : failure? result = none ↔ ∃ value, result = .ok value := by
  cases result <;> simp [failure?]

end Failures

namespace Operator

/-- An operator takes a number of arguments: an arithmetic one exactly two, and two or more are
needed for a least or a greatest value. -/
def Takes : Operator → Nat → Prop
  | .add, given | .sub, given | .mul, given | .div, given => given = 2
  | .min, given | .max, given => 2 ≤ given

theorem accepts_arity_iff {operator : Operator} {given : Nat} :
    operator.arity.accepts given = true ↔ operator.Takes given := by
  cases operator <;> simp [arity, Arity.accepts, Takes]

instance (operator : Operator) (given : Nat) : Decidable (operator.Takes given) :=
  decidable_of_iff _ accepts_arity_iff

theorem Takes.two_le {operator : Operator} {given : Nat} (takes : operator.Takes given) :
    2 ≤ given := by
  cases operator <;> simp only [Takes] at takes <;> omega

/-- The value of an operator by the places of its arguments. -/
def valueAtPlaces (operator : Operator) (values : List Float) (enough : 2 ≤ values.length) :
    Float :=
  let first := values.get ⟨0, Nat.lt_of_lt_of_le Nat.zero_lt_two enough⟩
  let second := values.get ⟨1, enough⟩
  match operator with
  | .add => first + second
  | .sub => first - second
  | .mul => first * second
  | .div => first / second
  | .min => least first (values.drop 1)
  | .max => greatest first (values.drop 1)

/-- Where an operator looks for an argument, there is one. -/
theorem apply_eq_valueAtPlaces {operator : Operator} {values : List Float}
    (takes : operator.Takes values.length) :
    operator.apply values = .ok (operator.valueAtPlaces values takes.two_le) := by
  rcases values with _ | ⟨first, _ | ⟨second, rest⟩⟩
  · exact absurd takes.two_le (by simp)
  · exact absurd takes.two_le (by simp)
  · have short : operator ≠ .min → operator ≠ .max → rest = [] := by
      cases operator <;> simp [Takes] at takes ⊢ <;> exact takes
    cases operator with
    | min | max => rfl
    | add | sub | mul | div =>
      obtain rfl := short (by simp) (by simp)
      rfl

theorem apply_of_not_takes {operator : Operator} {values : List Float}
    (refuses : ¬operator.Takes values.length) :
    operator.apply values = .error ⟨operator, values.length⟩ := by
  rcases values with _ | ⟨first, _ | ⟨second, _ | ⟨third, rest⟩⟩⟩ <;> cases operator <;>
    first | rfl | exact absurd refuses (by simp [Takes])

/-- The failure of a call, if its operator does not take the number of its arguments. -/
def mismatch? (call : Operator × Nat) : Option ArityMismatch :=
  if call.1.Takes call.2 then none else some ⟨call.1, call.2⟩

theorem mismatch?_eq_none_iff {call : Operator × Nat} :
    mismatch? call = none ↔ call.1.Takes call.2 := by
  simp [mismatch?]

theorem mismatch?_eq_some_iff {call : Operator × Nat} {failure : ArityMismatch} :
    mismatch? call = some failure ↔
      call = (failure.operator, failure.given) ∧ ¬failure.operator.Takes failure.given := by
  constructor
  · intro found
    rw [mismatch?] at found
    split at found
    · cases found
    · rename_i refuses
      obtain rfl := Option.some.inj found
      exact ⟨rfl, refuses⟩
  · rintro ⟨rfl, refuses⟩
    exact if_neg refuses

theorem failure?_apply (operator : Operator) (values : List Float) :
    failure? (operator.apply values) = mismatch? (operator, values.length) := by
  by_cases takes : operator.Takes values.length
  · rw [apply_eq_valueAtPlaces takes, mismatch?_eq_none_iff.mpr takes]
    rfl
  · rw [apply_of_not_takes takes, mismatch?, if_neg takes]
    rfl

end Operator

namespace Expression

mutual

/-- The calls of an expression with the numbers of their arguments, in the order in which they
are evaluated: those in the arguments of a call from left to right, and then the call itself. -/
def calls : Expression → List (Operator × Nat)
  | .constant _ => []
  | .measure _ => []
  | .call operator arguments => callsOf arguments ++ [(operator, arguments.length)]

def callsOf : List Expression → List (Operator × Nat)
  | [] => []
  | argument :: rest => argument.calls ++ callsOf rest

end

theorem length_of_evalArguments {s : Surroundings} {arguments : List Expression}
    {values : List Float} (evaluated : evalArguments s arguments = .ok values) :
    values.length = arguments.length := by
  induction arguments generalizing values with
  | nil =>
    rw [evalArguments] at evaluated
    obtain rfl := Except.ok.inj evaluated
    rfl
  | cons argument rest ih =>
    rw [evalArguments] at evaluated
    split at evaluated
    · cases evaluated
    split at evaluated
    · cases evaluated
    · rename_i others
      rw [← Except.ok.inj evaluated, List.length_cons, ih others, List.length_cons]

mutual

/-- An expression fails by the first of its calls that has a wrong number of arguments. -/
theorem failure?_eval (s : Surroundings) :
    ∀ e : Expression, failure? (e.eval s) = e.calls.findSome? Operator.mismatch?
  | .constant value => by
    rw [eval, calls]
    rfl
  | .measure m => by
    rw [eval, calls]
    rfl
  | .call operator arguments => by
    have inner := failure?_evalArguments s arguments
    rw [eval, calls, List.findSome?_append, ← inner]
    cases evaluated : evalArguments s arguments with
    | error failure => rfl
    | ok values =>
      rw [← length_of_evalArguments evaluated]
      simp only [failure?, Option.none_or, List.findSome?_singleton]
      exact Operator.failure?_apply operator values

theorem failure?_evalArguments (s : Surroundings) :
    ∀ arguments : List Expression,
      failure? (evalArguments s arguments) = (callsOf arguments).findSome? Operator.mismatch?
  | [] => by
    rw [evalArguments, callsOf]
    rfl
  | argument :: rest => by
    have first := failure?_eval s argument
    have others := failure?_evalArguments s rest
    rw [evalArguments, callsOf, List.findSome?_append, ← first, ← others]
    cases argument.eval s with
    | error failure => rfl
    | ok value => cases evalArguments s rest <;> rfl

end

/-- A failure is that of the first of some calls whose operator does not take the number of its
arguments. -/
def IsFirstMismatch (calls : List (Operator × Nat)) (failure : ArityMismatch) : Prop :=
  ∃ before after, calls = before ++ (failure.operator, failure.given) :: after ∧
    ¬failure.operator.Takes failure.given ∧ ∀ call ∈ before, call.1.Takes call.2

theorem findSome?_mismatch?_eq_some_iff {calls : List (Operator × Nat)}
    {failure : ArityMismatch} :
    calls.findSome? Operator.mismatch? = some failure ↔ IsFirstMismatch calls failure := by
  rw [List.findSome?_eq_some_iff]
  constructor
  · rintro ⟨before, call, after, rfl, found, earlier⟩
    obtain ⟨rfl, refuses⟩ := Operator.mismatch?_eq_some_iff.mp found
    exact ⟨before, after, rfl, refuses, fun call member =>
      Operator.mismatch?_eq_none_iff.mp (earlier call member)⟩
  · rintro ⟨before, after, rfl, refuses, earlier⟩
    exact ⟨before, _, after, rfl, Operator.mismatch?_eq_some_iff.mpr ⟨rfl, refuses⟩,
      fun call member => Operator.mismatch?_eq_none_iff.mpr (earlier call member)⟩

theorem findSome?_mismatch?_eq_none_iff {calls : List (Operator × Nat)} :
    calls.findSome? Operator.mismatch? = none ↔ ∀ call ∈ calls, call.1.Takes call.2 := by
  simp only [List.findSome?_eq_none_iff, Operator.mismatch?_eq_none_iff]

/-- Whether an expression has a value, and why it has none, shows in the expression alone: there is a
value iff the operator of every call takes the number of its arguments, and the failure is that of the
wrong call that is evaluated first.  The surroundings have no say in it. -/
structure FailsByShape (e : Expression) : Prop where
  succeeds : ∀ s, (∃ value, e.eval s = .ok value) ↔ ∀ call ∈ e.calls, call.1.Takes call.2
  fails : ∀ s failure, e.eval s = .error failure ↔ IsFirstMismatch e.calls failure
  alike : ∀ s s', (∃ value, e.eval s = .ok value) ↔ ∃ value, e.eval s' = .ok value

theorem failsByShape (e : Expression) : e.FailsByShape := by
  have succeeds : ∀ s, (∃ value, e.eval s = .ok value) ↔ ∀ call ∈ e.calls, call.1.Takes call.2 := by
    intro s
    rw [← failure?_eq_none_iff, e.failure?_eval s, findSome?_mismatch?_eq_none_iff]
  refine ⟨succeeds, fun s failure => ?_, fun s s' => ?_⟩
  · rw [← failure?_eq_some_iff, e.failure?_eval s, findSome?_mismatch?_eq_some_iff]
  · rw [succeeds s, succeeds s']

/-- Of two wrong calls the inner one is to blame. -/
example (argument : Expression) (simple : argument.calls = []) :
    IsFirstMismatch (calls (.call .min [.call .add [argument]])) ⟨.add, 1⟩ :=
  ⟨[], [(.min, 1)], by simp [calls, callsOf, simple], by decide, by simp⟩

end Expression

namespace Placement

variable {p : Placement}

theorem failure?_valueOf (s : Surroundings) (dimension : Dimension) :
    failure? (p.valueOf s dimension) =
      (p.get dimension).bind fun e => e.calls.findSome? Operator.mismatch? := by
  rw [valueOf]
  cases p.get dimension with
  | none => rfl
  | some e =>
    rw [Option.bind_some, ← e.failure?_eval s]
    cases evaluated : e.eval s <;> simp only [evaluated, failure?]

/-- A placement fails by the first dimension that gets no value. -/
theorem failure?_target (window head : Rect) (extents : FrameExtents) :
    failure? (p.target window head extents) =
      Dimension.all.findSome? fun dimension =>
        failure? (p.valueOf (.ofWindow window head) dimension) := by
  simp only [target, Dimension.all, List.findSome?_cons, List.findSome?_nil]
  cases p.valueOf (.ofWindow window head) .x with
  | error failure => rfl
  | ok x =>
    cases p.valueOf (.ofWindow window head) .y with
    | error failure => rfl
    | ok y =>
      cases p.valueOf (.ofWindow window head) .width with
      | error failure => rfl
      | ok width => cases p.valueOf (.ofWindow window head) .height <;> rfl

/-- A failure is that of the first expression of a placement that has a wrong call, in the order
of the dimensions. -/
def IsFirstFailure (p : Placement) (failure : ArityMismatch) : Prop :=
  ∃ before dimension after e, Dimension.all = before ++ dimension :: after ∧
    p.get dimension = some e ∧ Expression.IsFirstMismatch e.calls failure ∧
    ∀ earlier ∈ before, ∀ other, p.get earlier = some other →
      ∀ call ∈ other.calls, call.1.Takes call.2

/-- Whether a placement has a target, and why it has none, shows in its expressions alone: it has one
iff every call in them has a number of arguments that its operator takes, and the failure is that of
the first expression of which this is not so.  Windows, heads and decorations have no say in it. -/
structure FailsByShape (p : Placement) : Prop where
  succeeds : ∀ window head extents, (∃ target, p.target window head extents = .ok target) ↔
    ∀ dimension e, p.get dimension = some e → ∀ call ∈ e.calls, call.1.Takes call.2
  fails : ∀ window head extents failure,
    p.target window head extents = .error failure ↔ p.IsFirstFailure failure
  alike : (∀ window head extents, ∃ target, p.target window head extents = .ok target) ∨
    ∃ failure, ∀ window head extents, p.target window head extents = .error failure

/-- The failure of a placement, found without any window. -/
def shapeFailure? (p : Placement) : Option ArityMismatch :=
  Dimension.all.findSome? fun dimension =>
    (p.get dimension).bind fun e => e.calls.findSome? Operator.mismatch?

theorem failure?_target_eq_shapeFailure? (window head : Rect) (extents : FrameExtents) :
    failure? (p.target window head extents) = p.shapeFailure? := by
  simp only [failure?_target, failure?_valueOf, shapeFailure?]

theorem shapeFailure?_eq_none_iff : p.shapeFailure? = none ↔
    ∀ dimension e, p.get dimension = some e → ∀ call ∈ e.calls, call.1.Takes call.2 := by
  simp only [shapeFailure?, List.findSome?_eq_none_iff, Dimension.mem_all, forall_const,
    Option.bind_eq_none_iff, Operator.mismatch?_eq_none_iff]

theorem shapeFailure?_eq_some_iff {failure : ArityMismatch} :
    p.shapeFailure? = some failure ↔ p.IsFirstFailure failure := by
  rw [shapeFailure?, List.findSome?_eq_some_iff]
  constructor
  · rintro ⟨before, dimension, after, order, blamed, earlier⟩
    obtain ⟨e, chosen, mismatched⟩ := Option.bind_eq_some_iff.mp blamed
    refine ⟨before, dimension, after, e, order, chosen,
      Expression.findSome?_mismatch?_eq_some_iff.mp mismatched, ?_⟩
    intro other member other_e other_chosen
    have sound := earlier other member
    rw [other_chosen, Option.bind_some] at sound
    exact Expression.findSome?_mismatch?_eq_none_iff.mp sound
  · rintro ⟨before, dimension, after, e, order, chosen, mismatched, earlier⟩
    refine ⟨before, dimension, after, order, ?_, ?_⟩
    · rw [chosen, Option.bind_some]
      exact Expression.findSome?_mismatch?_eq_some_iff.mpr mismatched
    · intro other member
      refine Option.bind_eq_none_iff.mpr ?_
      intro other_e other_chosen
      exact Expression.findSome?_mismatch?_eq_none_iff.mpr (earlier other member _ other_chosen)

theorem failsByShape (p : Placement) : p.FailsByShape where
  succeeds window head extents := by
    rw [← failure?_eq_none_iff, failure?_target_eq_shapeFailure?, shapeFailure?_eq_none_iff]
  fails window head extents failure := by
    rw [← failure?_eq_some_iff, failure?_target_eq_shapeFailure?, shapeFailure?_eq_some_iff]
  alike := by
    cases shape : p.shapeFailure? with
    | none =>
      refine .inl fun window head extents => failure?_eq_none_iff.mp ?_
      rw [failure?_target_eq_shapeFailure?, shape]
    | some failure =>
      refine .inr ⟨failure, fun window head extents => failure?_eq_some_iff.mp ?_⟩
      rw [failure?_target_eq_shapeFailure?, shape]

end Placement

end WindowPlacement
