import Mathlib.Data.Nat.Notation
import Mathlib.Tactic.SplitIfs
import WindowPlacement.Desktop.Plan

/-!
# The ring of heads

Destinations are counted along the list of heads, and from its last head on to its first one.
-/

namespace WindowPlacement

namespace Destination

/-- The index that a destination means to a window on one of some heads. -/
def target (count current : ℕ) : Destination → ℕ
  | .head index => index
  | .neighbour .left => (current + count - 1) % count
  | .neighbour .right => (current + 1) % count

def IsWithin (count : ℕ) : Destination → Prop
  | .head index => index < count
  | .neighbour _ => True

instance (count : ℕ) : ∀ destination, Decidable (IsWithin count destination)
  | .head index => inferInstanceAs (Decidable (index < count))
  | .neighbour _ => inferInstanceAs (Decidable True)

theorem target_lt {destination : Destination} {count current : ℕ}
    (within : destination.IsWithin count) (present : current < count) :
    destination.target count current < count := by
  have positive : 0 < count := Nat.zero_lt_of_lt present
  rcases destination with index | direction
  · exact within
  · cases direction
    · exact Nat.mod_lt _ positive
    · exact Nat.mod_lt _ positive

theorem resolve_eq_ok {Failure : Type} {destination : Destination} {count : ℕ}
    (within : destination.IsWithin count) (current : Fin count) :
    (destination.resolve current : Except (RunError Failure) (Fin count)) =
      .ok ⟨destination.target count current, target_lt within current.isLt⟩ := by
  rcases destination with index | direction
  · have inRange : index < count := within
    simp [resolve, target, inRange]
  · cases direction <;> rfl

theorem target_left {count current : ℕ} (present : current < count) :
    (neighbour .left).target count current = if current = 0 then count - 1 else current - 1 := by
  rw [target]
  split_ifs with first
  · rw [first, Nat.zero_add, Nat.mod_eq_of_lt (by omega)]
  · have wraps : current + count - 1 = current - 1 + count := by omega
    rw [wraps, Nat.add_mod_right, Nat.mod_eq_of_lt (by omega)]

theorem target_right {count current : ℕ} (present : current < count) :
    (neighbour .right).target count current = if current + 1 = count then 0 else current + 1 := by
  rw [target]
  split_ifs with last
  · rw [last, Nat.mod_self]
  · rw [Nat.mod_eq_of_lt (by omega)]

def targetAll (count current : ℕ) (destinations : List Destination) : ℕ :=
  destinations.foldl (fun index destination => destination.target count index) current

theorem targetAll_lt {count current : ℕ} {destinations : List Destination}
    (within : ∀ destination ∈ destinations, destination.IsWithin count)
    (present : current < count) : targetAll count current destinations < count := by
  induction destinations generalizing current with
  | nil => exact present
  | cons destination rest ih =>
    obtain ⟨first, others⟩ := List.forall_mem_cons.mp within
    exact ih others (target_lt first present)

theorem isWithin_of_mem_replicate {count steps : ℕ} {direction : Direction} :
    ∀ destination ∈ List.replicate steps (neighbour direction), destination.IsWithin count := by
  intro destination member
  rw [List.eq_of_mem_replicate member]
  trivial

theorem targetAll_replicate_succ (count current steps : ℕ) (destination : Destination) :
    targetAll count current (.replicate (steps + 1) destination) =
      destination.target count (targetAll count current (.replicate steps destination)) := by
  rw [List.replicate_succ', targetAll, List.foldl_append]
  rfl

theorem targetAll_left_after_right {count current : ℕ} (present : current < count) :
    targetAll count current [.neighbour .right, .neighbour .left] = current := by
  have between : (neighbour .right).target count current < count := target_lt trivial present
  simp only [targetAll, List.foldl_cons, List.foldl_nil]
  rw [target_left between, target_right present]
  by_cases last : current + 1 = count
  · rw [if_pos last, if_pos rfl]
    omega
  · rw [if_neg last, if_neg (Nat.succ_ne_zero current), Nat.add_sub_cancel]

theorem targetAll_replicate_left {count current steps : ℕ} (present : current < count)
    (bounded : steps ≤ count) :
    targetAll count current (.replicate steps (.neighbour .left)) =
      if steps ≤ current then current - steps else current + count - steps := by
  induction steps with
  | zero => simp [targetAll]
  | succ steps ih =>
    have inRange : targetAll count current (.replicate steps (.neighbour .left)) < count :=
      targetAll_lt isWithin_of_mem_replicate present
    rw [targetAll_replicate_succ, target_left inRange, ih (by omega)]
    split_ifs <;> omega

theorem targetAll_replicate_right {count current steps : ℕ} (present : current < count)
    (bounded : steps ≤ count) :
    targetAll count current (.replicate steps (.neighbour .right)) =
      if current + steps < count then current + steps else current + steps - count := by
  induction steps with
  | zero => simp [targetAll, present]
  | succ steps ih =>
    have inRange : targetAll count current (.replicate steps (.neighbour .right)) < count :=
      targetAll_lt isWithin_of_mem_replicate present
    rw [targetAll_replicate_succ, target_right inRange, ih (by omega)]
    split_ifs <;> omega

theorem exists_targetAll_replicate (direction : Direction) {count current index : ℕ}
    (present : current < count) (inRange : index < count) :
    ∃ steps, (1 ≤ steps ∧ steps ≤ count) ∧
      targetAll count current (.replicate steps (.neighbour direction)) = index := by
  cases direction with
  | left =>
    refine ⟨if index < current then current - index else current + count - index, ?_, ?_⟩
    · split_ifs <;> omega
    · rw [targetAll_replicate_left present (by split_ifs <;> omega)]
      split_ifs <;> omega
  | right =>
    refine ⟨if current < index then index - current else index + count - current, ?_, ?_⟩
    · split_ifs <;> omega
    · rw [targetAll_replicate_right present (by split_ifs <;> omega)]
      split_ifs <;> omega

end Destination

end WindowPlacement
