import WindowPlacement.Proofs.CallArity
import WindowPlacement.Proofs.Comparison

/-!
# Least and greatest values

A call of `min` or `max` goes through the values of its arguments once and keeps one of them, which
is replaced by a value that is better.  What is no number is neither better nor worse than anything:
in the first place it stays, and in any other place it is passed over.  Of numbers that are equally
good, as the two zeros are, the first one is kept.
-/

namespace WindowPlacement

/-- A way to tell the better one of two values: all numbers are ranked by it, and what is no number
is not. -/
structure Ranks (better : Float → Float → Prop) : Prop where
  numbers : ∀ {a b}, better a b → a.isNaN = false ∧ b.isNaN = false
  asymm : ∀ {a b}, better a b → ¬better b a
  split : ∀ {a b c}, better a b → c.isNaN = false → better a c ∨ better c b
  ties : ∀ {a b}, a.isNaN = false → b.isNaN = false → ¬better a b → ¬better b a →
    EqUpToZeroSign a b

theorem ranks_lt : Ranks (· < ·) where
  numbers := by
    intro a b less
    obtain ⟨p, at_a, q, at_b, -⟩ := lt_iff_place?_lt.mp less
    exact ⟨isNaN_eq_false_iff.mpr ⟨p, at_a⟩, isNaN_eq_false_iff.mpr ⟨q, at_b⟩⟩
  asymm := by
    intro a b less greater
    obtain ⟨p, at_a, q, at_b, below⟩ := lt_iff_place?_lt.mp less
    obtain ⟨q', at_b', p', at_a', above⟩ := lt_iff_place?_lt.mp greater
    obtain rfl := Option.mem_unique at_a at_a'
    obtain rfl := Option.mem_unique at_b at_b'
    exact lt_asymm below above
  split := by
    intro a b c less number
    obtain ⟨p, at_a, q, at_b, below⟩ := lt_iff_place?_lt.mp less
    obtain ⟨r, at_c⟩ := isNaN_eq_false_iff.mp number
    rcases lt_or_ge p r with above | not_above
    · exact .inl (lt_iff_place?_lt.mpr ⟨p, at_a, r, at_c, above⟩)
    · exact .inr (lt_iff_place?_lt.mpr ⟨r, at_c, q, at_b, not_above.trans_lt below⟩)
  ties := eqUpToZeroSign_of_not_lt

section Best

variable {better : Float → Float → Prop}

theorem Ranks.flip (ranks : Ranks better) : Ranks fun a b => better b a where
  numbers is_better := (ranks.numbers is_better).symm
  asymm is_better := ranks.asymm is_better
  split is_better number := (ranks.split is_better number).symm
  ties number number' not_better not_worse := ranks.ties number number' not_worse not_better

theorem ranks_gt : Ranks fun a b => b < a :=
  ranks_lt.flip

theorem Ranks.trans (ranks : Ranks better) {a b c : Float} (first : better a b)
    (second : better b c) : better a c :=
  (ranks.split first (ranks.numbers second).2).resolve_right (ranks.asymm second)

def IsBest (better : Float → Float → Prop) (values : List Float) (value : Float) : Prop :=
  value.isNaN = false ∧ ∀ other ∈ values, other.isNaN = false → ¬better other value

/-- The first one of the best numbers among some values. -/
def IsFirstBest (better : Float → Float → Prop) (values : List Float) (chosen : Float) : Prop :=
  ∃ before after, values = before ++ chosen :: after ∧ IsBest better values chosen ∧
    ∀ earlier ∈ before, ¬IsBest better values earlier

theorem IsFirstBest.isBest {values : List Float} {chosen : Float}
    (first_best : IsFirstBest better values chosen) : IsBest better values chosen := by
  obtain ⟨before, after, -, best, -⟩ := first_best
  exact best

theorem IsFirstBest.mem {values : List Float} {chosen : Float}
    (first_best : IsFirstBest better values chosen) : chosen ∈ values := by
  obtain ⟨before, after, rfl, -, -⟩ := first_best
  simp

theorem Ranks.eqUpToZeroSign_of_perm (ranks : Ranks better) {values values' : List Float}
    {chosen chosen' : Float} (perm : values.Perm values')
    (first_best : IsFirstBest better values chosen)
    (first_best' : IsFirstBest better values' chosen') : EqUpToZeroSign chosen chosen' := by
  obtain ⟨number, none_better⟩ := first_best.isBest
  obtain ⟨number', none_better'⟩ := first_best'.isBest
  have not_worse := none_better chosen' (perm.mem_iff.mpr first_best'.mem) number'
  have not_better := none_better' chosen (perm.mem_iff.mp first_best.mem) number
  exact ranks.ties number number' not_better not_worse

variable [DecidableRel better]

def keepBetter (better : Float → Float → Prop) [DecidableRel better] (kept value : Float) : Float :=
  if better value kept then value else kept

/-- One more value leaves the first best number in place, or takes its place. -/
theorem Ranks.isFirstBest_keepBetter (ranks : Ranks better) {seen : List Float} {kept : Float}
    (first_best : IsFirstBest better seen kept) (value : Float) :
    IsFirstBest better (seen ++ [value]) (keepBetter better kept value) := by
  have kept_mem := first_best.mem
  obtain ⟨before, after, split, ⟨number, none_better⟩, earlier_worse⟩ := first_best
  rw [keepBetter]
  split_ifs with value_better
  · have value_number := (ranks.numbers value_better).1
    refine ⟨seen, [], rfl, ⟨value_number, fun other member other_number other_better => ?_⟩, ?_⟩
    · rcases List.mem_append.mp member with seen_before | is_value
      · exact none_better other seen_before other_number (ranks.trans other_better value_better)
      · obtain rfl := List.mem_singleton.mp is_value
        exact ranks.asymm other_better other_better
    · rintro earlier member ⟨earlier_number, best⟩
      -- The value kept so far is no better than an earlier one that is among the best.
      have not_beaten := best kept (List.mem_append_left _ kept_mem) number
      have beaten := (ranks.split value_better earlier_number).resolve_right
        (none_better earlier member earlier_number)
      exact best value (by simp) value_number beaten
  · refine ⟨before, after ++ [value], by rw [split, List.append_assoc, List.cons_append],
      ⟨number, fun other member other_number => ?_⟩, ?_⟩
    · rcases List.mem_append.mp member with seen_before | is_value
      · exact none_better other seen_before other_number
      · rwa [List.mem_singleton.mp is_value]
    · rintro earlier member ⟨earlier_number, best⟩
      exact earlier_worse earlier member
        ⟨earlier_number, fun other seen_before => best other (List.mem_append_left _ seen_before)⟩

theorem Ranks.isFirstBest_foldl (ranks : Ranks better) (rest : List Float) {seen : List Float}
    {kept : Float} (first_best : IsFirstBest better seen kept) :
    IsFirstBest better (seen ++ rest) (rest.foldl (keepBetter better) kept) := by
  -- The number kept so far is the first best one of all values seen before the rest.
  induction rest generalizing seen kept with
  | nil => rwa [List.append_nil]
  | cons value rest ih =>
    have next := ih (ranks.isFirstBest_keepBetter first_best value)
    rwa [List.append_assoc, List.singleton_append] at next

theorem Ranks.isFirstBest_of_number (ranks : Ranks better) {first : Float}
    (number : first.isNaN = false) (rest : List Float) :
    IsFirstBest better (first :: rest) (rest.foldl (keepBetter better) first) := by
  have alone : IsFirstBest better [first] first := by
    refine ⟨[], [], rfl, ⟨number, fun other member other_number other_better => ?_⟩, by simp⟩
    obtain rfl := List.mem_singleton.mp member
    exact ranks.asymm other_better other_better
  exact ranks.isFirstBest_foldl rest alone

theorem Ranks.keepBetter_of_isNaN (ranks : Ranks better) {kept value : Float}
    (no_number : kept.isNaN = true ∨ value.isNaN = true) : keepBetter better kept value = kept := by
  refine if_neg fun is_better => ?_
  obtain ⟨value_number, kept_number⟩ := ranks.numbers is_better
  rw [value_number, kept_number] at no_number
  simp at no_number

theorem Ranks.foldl_of_isNaN (ranks : Ranks better) {first : Float} (no_number : first.isNaN = true)
    (rest : List Float) : rest.foldl (keepBetter better) first = first := by
  induction rest with
  | nil => rfl
  | cons value rest ih => rw [List.foldl_cons, ranks.keepBetter_of_isNaN (.inl no_number), ih]

end Best

namespace Expression

def HaveValues (s : Surroundings) (arguments : List Expression) (values : List Float) : Prop :=
  List.Forall₂ (fun argument value => argument.eval s = .ok value) arguments values

variable {s : Surroundings}

theorem evalArguments_of_haveValues {arguments : List Expression} {values : List Float}
    (valued : HaveValues s arguments values) : evalArguments s arguments = .ok values := by
  induction valued with
  | nil => rw [evalArguments]
  | cons evaluated _ ih =>
    rw [evalArguments, evaluated, ih]

theorem evalArguments_cons (s : Surroundings) (argument : Expression) (rest : List Expression) :
    evalArguments s (argument :: rest) =
      (argument.eval s).bind fun value =>
        (evalArguments s rest).map fun values => value :: values := by
  rw [evalArguments]
  cases argument.eval s with
  | error failure => rfl
  | ok value => cases evalArguments s rest <;> rfl

theorem evalArguments_append (s : Surroundings) (before after : List Expression) :
    evalArguments s (before ++ after) =
      (evalArguments s before).bind fun values =>
        (evalArguments s after).map fun others => values ++ others := by
  induction before with
  | nil =>
    rw [List.nil_append, evalArguments]
    cases evalArguments s after <;> rfl
  | cons argument rest ih =>
    rw [List.cons_append, evalArguments_cons, evalArguments_cons, ih]
    cases argument.eval s with
    | error failure => rfl
    | ok value =>
      cases evalArguments s rest with
      | error failure => rfl
      | ok values => cases evalArguments s after <;> rfl

end Expression

namespace Operator

open Expression

/-- An operator takes two values or more, and keeps the better ones among them. -/
def KeepsBetter (operator : Operator) (better : Float → Float → Prop) [DecidableRel better] :
    Prop :=
  ∀ first second rest, operator.apply (first :: second :: rest) =
    .ok ((second :: rest).foldl (keepBetter better) first)

theorem keepsBetter_min : KeepsBetter .min (· < ·) :=
  fun _ _ _ => rfl

theorem keepsBetter_max : KeepsBetter .max (fun a b => b < a) :=
  fun _ _ _ => rfl

/-- A call of an operator gives the first one of the best numbers among the values of its
arguments, or the first value if that one is no number.  Other values that are no numbers are
passed over. -/
structure Chooses (operator : Operator) (better : Float → Float → Prop) : Prop where
  first_best : ∀ {s arguments first rest}, HaveValues s arguments (first :: rest) → rest ≠ [] →
    first.isNaN = false →
    ∃ chosen, (call operator arguments).eval s = .ok chosen ∧
      IsFirstBest better (first :: rest) chosen
  stuck : ∀ {s arguments first rest}, HaveValues s arguments (first :: rest) → rest ≠ [] →
    first.isNaN = true → (call operator arguments).eval s = .ok first
  passed_over : ∀ {s argument value}, argument.eval s = .ok value → value.isNaN = true →
    ∀ first before after, (call operator (first :: before ++ argument :: after)).eval s =
      if before ++ after = [] then first.eval s
      else (call operator (first :: before ++ after)).eval s
  reordered : ∀ {s arguments arguments' values}, HaveValues s arguments values →
    2 ≤ values.length → (∀ value ∈ values, value.isNaN = false) → arguments.Perm arguments' →
    ∃ chosen chosen', (call operator arguments).eval s = .ok chosen ∧
      (call operator arguments').eval s = .ok chosen' ∧ EqUpToZeroSign chosen chosen'

theorem exists_cons_of_two_le {values : List Float} (several : 2 ≤ values.length) :
    ∃ first rest, values = first :: rest ∧ rest ≠ [] := by
  rcases values with _ | ⟨first, _ | ⟨second, rest⟩⟩
  · simp at several
  · simp at several
  · exact ⟨first, second :: rest, rfl, by simp⟩

section Choosing

variable {operator : Operator} {better : Float → Float → Prop} [DecidableRel better]
  {s : Surroundings}

theorem KeepsBetter.apply_cons (keeps : operator.KeepsBetter better) (first : Float)
    {rest : List Float} (more : rest ≠ []) :
    operator.apply (first :: rest) = .ok (rest.foldl (keepBetter better) first) := by
  obtain ⟨second, rest, rfl⟩ := List.exists_cons_of_ne_nil more
  exact keeps first second rest

theorem KeepsBetter.eval_call (keeps : operator.KeepsBetter better) {arguments : List Expression}
    {first : Float} {rest : List Float} (valued : HaveValues s arguments (first :: rest))
    (more : rest ≠ []) :
    (call operator arguments).eval s = .ok (rest.foldl (keepBetter better) first) := by
  rw [eval, evalArguments_of_haveValues valued]
  exact keeps.apply_cons first more

theorem KeepsBetter.apply_append (keeps : operator.KeepsBetter better) (ranks : Ranks better)
    {value : Float} (no_number : value.isNaN = true) (first : Float) (before after : List Float) :
    operator.apply (first :: before ++ value :: after) =
      .ok ((before ++ after).foldl (keepBetter better) first) := by
  have unaffected : (before ++ value :: after).foldl (keepBetter better) first =
      (before ++ after).foldl (keepBetter better) first := by
    rw [List.foldl_append, List.foldl_cons, ranks.keepBetter_of_isNaN (.inr no_number),
      List.foldl_append]
  rw [List.cons_append, ← unaffected]
  exact keeps.apply_cons first (by simp)

theorem KeepsBetter.passed_over (keeps : operator.KeepsBetter better) (ranks : Ranks better)
    {argument : Expression} {value : Float} (evaluated : argument.eval s = .ok value)
    (no_number : value.isNaN = true) (first : Expression) (before after : List Expression) :
    (call operator (first :: before ++ argument :: after)).eval s =
      if before ++ after = [] then first.eval s
      else (call operator (first :: before ++ after)).eval s := by
  rw [eval, evalArguments_append, evalArguments_cons, evalArguments_cons, evaluated]
  split_ifs with alone
  · obtain ⟨rfl, rfl⟩ := List.append_eq_nil_iff.mp alone
    cases first.eval s with
    | error failure => rfl
    | ok first => exact keeps.apply_append ranks no_number first [] []
  · rw [eval, evalArguments_append, evalArguments_cons]
    cases first.eval s with
    | error failure => rfl
    | ok first =>
      cases earlier : evalArguments s before with
      | error failure => rfl
      | ok values =>
        cases later : evalArguments s after with
        | error failure => rfl
        | ok others =>
          have more : values ++ others ≠ [] := by
            rw [← List.length_pos_iff, List.length_append, length_of_evalArguments earlier,
              length_of_evalArguments later, ← List.length_append]
            exact List.length_pos_iff.mpr alone
          have without := keeps.apply_cons first more
          exact (keeps.apply_append ranks no_number first values others).trans without.symm

theorem KeepsBetter.chooses (keeps : operator.KeepsBetter better) (ranks : Ranks better) :
    operator.Chooses better where
  first_best := by
    intro s arguments first rest valued more number
    exact ⟨_, keeps.eval_call valued more, ranks.isFirstBest_of_number number rest⟩
  stuck := by
    intro s arguments first rest valued more no_number
    rw [keeps.eval_call valued more, ranks.foldl_of_isNaN no_number]
  passed_over := keeps.passed_over ranks
  reordered := by
    intro s arguments arguments' values valued several numbers perm
    obtain ⟨values', valued', perm'⟩ := List.perm_comp_forall₂ perm.symm valued
    obtain ⟨first, rest, rfl, more⟩ := exists_cons_of_two_le several
    have several' : 2 ≤ values'.length := by rwa [perm'.length_eq]
    obtain ⟨first', rest', rfl, more'⟩ := exists_cons_of_two_le several'
    have number' : first'.isNaN = false := numbers first' (perm'.mem_iff.mp List.mem_cons_self)
    refine ⟨_, _, keeps.eval_call valued more, keeps.eval_call valued' more', ?_⟩
    exact ranks.eqUpToZeroSign_of_perm perm'.symm
      (ranks.isFirstBest_of_number (numbers first List.mem_cons_self) rest)
      (ranks.isFirstBest_of_number number' rest')

end Choosing

/-- `min` gives the first one of the least numbers, and `max` the first one of the greatest. -/
theorem min_and_max_choose : Chooses .min (· < ·) ∧ Chooses .max fun a b => b < a :=
  ⟨keepsBetter_min.chooses ranks_lt, keepsBetter_max.chooses ranks_gt⟩

def noNumber : Expression :=
  .call .div [.constant 0.0, .constant 0.0]

theorem isNaN_zero_div_zero : (0.0 / 0.0 : Float).isNaN = true := by
  decide +kernel

/-- Of the two zeros behind what is no number the first one is the least. -/
theorem mixed_values_choose :
    IsFirstBest (· < ·) [3.0, 0.0 / 0.0, -0.0, 0.0] (-0.0) ∧
      (call .min [.constant 3.0, noNumber, .constant (-0.0), .constant 0.0]).eval
        ⟨0, 0, 1, 1, 2, 2⟩ = .ok (-0.0) ∧
      (call .max [noNumber, .constant 3.0]).eval ⟨0, 0, 1, 1, 2, 2⟩ = .ok (0.0 / 0.0) := by
  have number : (3.0 : Float).isNaN = false := by decide +kernel
  have valued : HaveValues ⟨0, 0, 1, 1, 2, 2⟩
      [.constant 3.0, noNumber, .constant (-0.0), .constant 0.0] [3.0, 0.0 / 0.0, -0.0, 0.0] :=
    .cons rfl (.cons rfl (.cons rfl (.cons rfl .nil)))
  have valued' : HaveValues ⟨0, 0, 1, 1, 2, 2⟩ [noNumber, .constant 3.0] [0.0 / 0.0, 3.0] :=
    .cons rfl (.cons rfl .nil)
  obtain ⟨chosen, evaluated, first_best⟩ :=
    min_and_max_choose.1.first_best valued (by simp) number
  have computed : (call .min [.constant 3.0, noNumber, .constant (-0.0), .constant 0.0]).eval
      ⟨0, 0, 1, 1, 2, 2⟩ = .ok (-0.0) := rfl
  obtain rfl := Except.ok.inj (computed.symm.trans evaluated)
  exact ⟨first_best, evaluated,
    min_and_max_choose.2.stuck valued' (by simp) isNaN_zero_div_zero⟩

end Operator

end WindowPlacement
