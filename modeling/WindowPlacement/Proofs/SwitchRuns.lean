import WindowPlacement.Proofs.Switching

/-!
# Series of switches

A series of commands to switch leads from head to head as if the workspace kept the position in
the ring of heads, although all it keeps is the frame of the window.
-/

namespace WindowPlacement.Workspace

section Runs

variable {w : Workspace} {found : ManagedWindow}

def switchAll (w : Workspace) (honorStruts : Bool) (destinations : List Destination) :
    Workspace :=
  destinations.foldl (fun w destination => (w.run honorStruts (.switch destination)).2) w

/-- A series of commands to switch keeps a workspace arranged, with the same heads and a window
of the same size, and leads to the head that its destinations lead to. -/
theorem Arranged.run (arranged : w.Arranged found) (honorStruts : Bool)
    (destinations : List Destination)
    (within : ∀ destination ∈ destinations, destination.IsWithin w.heads.length) :
    ∃ (current : Fin w.heads.length) (moved : ManagedWindow),
      w.headIndex? = some current.val ∧
      (w.switchAll honorStruts destinations).Arranged moved ∧
      (w.switchAll honorStruts destinations).heads = w.heads ∧
      (moved.frame.width = found.frame.width ∧ moved.frame.height = found.frame.height) ∧
      (w.switchAll honorStruts destinations).headIndex? =
        some (Destination.targetAll w.heads.length current destinations) := by
  -- The rest of the commands starts from the workspace that the first one leads to.
  induction destinations generalizing w found with
  | nil =>
    obtain ⟨current, -, onHead⟩ := arranged.exists_owner
    exact ⟨current, found, onHead, arranged, rfl, ⟨rfl, rfl⟩, onHead⟩
  | cons destination rest ih =>
    obtain ⟨first, others⟩ := List.forall_mem_cons.mp within
    obtain ⟨current, between, switched, arranged_between, same_heads⟩ :=
      arranged.step first honorStruts
    obtain ⟨next, moved, head_next, arranged_after, heads_after, size, head_after⟩ :=
      ih arranged_between (by rwa [same_heads])
    have next_eq : destination.target w.heads.length current = next :=
      Option.some.inj (switched.head_after.symm.trans head_next)
    refine ⟨current, moved, switched.head_before, arranged_after,
      heads_after.trans same_heads, ?_, ?_⟩
    · exact ⟨size.1.trans switched.width, size.2.trans switched.height⟩
    · rw [← next_eq, same_heads] at head_after
      exact head_after

/-- What switching is like in a workspace, one command and several of them: left after right leads
back, going on in one direction leads to every head, and a head can as well be named once. -/
structure SwitchLaws (w : Workspace) (honorStruts : Bool) : Prop where
  step : ∀ destination, destination.IsWithin w.heads.length →
    ∃ (current : Fin w.heads.length) (found moved : ManagedWindow),
      w.Switches honorStruts destination current found moved
  back : (w.switchAll honorStruts [.neighbour .right, .neighbour .left]).headIndex? =
    w.headIndex?
  around : ∀ direction index, index < w.heads.length →
    ∃ steps, (1 ≤ steps ∧ steps ≤ w.heads.length) ∧
      (w.switchAll honorStruts (.replicate steps (.neighbour direction))).headIndex? =
        some index
  again : ∀ index, index < w.heads.length →
    w.switchAll honorStruts [.head index, .head index] = w.switchAll honorStruts [.head index]

theorem Arranged.switchLaws (arranged : w.Arranged found) (honorStruts : Bool) :
    w.SwitchLaws honorStruts where
  step destination within := by
    obtain ⟨current, moved, switched, -⟩ := arranged.step within honorStruts
    exact ⟨current, found, moved, switched⟩
  back := by
    obtain ⟨current, -, onHead, -, -, -, reached⟩ :=
      arranged.run honorStruts [.neighbour .right, .neighbour .left]
        (by simp [Destination.IsWithin])
    rw [reached, onHead, Destination.targetAll_left_after_right current.isLt]
  around direction index inRange := by
    obtain ⟨current, -, onHead⟩ := arranged.exists_owner
    obtain ⟨steps, bounds, target_eq⟩ :=
      Destination.exists_targetAll_replicate direction current.isLt inRange
    refine ⟨steps, bounds, ?_⟩
    obtain ⟨current', -, onHead', -, -, -, reached⟩ :=
      arranged.run honorStruts (.replicate steps (.neighbour direction))
        Destination.isWithin_of_mem_replicate
    have same : current.val = current'.val := Option.some.inj (onHead.symm.trans onHead')
    rw [reached, ← same, target_eq]
  again index inRange := by
    have within : (Destination.head index).IsWithin w.heads.length := inRange
    obtain ⟨current, between, switched, arranged_between, same_heads⟩ :=
      arranged.step within honorStruts
    have within_after : (Destination.head index).IsWithin
        (w.run honorStruts (.switch (.head index))).2.heads.length := by rwa [same_heads]
    obtain ⟨current', moved, switched', -⟩ := arranged_between.step within_after honorStruts
    have same : index = current'.val :=
      Option.some.inj (switched.head_after.symm.trans switched'.head_before)
    exact switched'.stays same

/-- After every series of commands to switch, the window has kept its size, and the next command
to switch finds it on the head that it was sent to. -/
theorem switches_along_runs (w : Workspace) (found : ManagedWindow) (honorStruts : Bool)
    (arranged : w.Arranged found) (destinations : List Destination)
    (within : ∀ destination ∈ destinations, destination.IsWithin w.heads.length) :
    let reached := w.switchAll honorStruts destinations
    reached.heads = w.heads ∧
      (∃ moved, reached.activeWindow? = some moved ∧
        moved.frame.width = found.frame.width ∧ moved.frame.height = found.frame.height) ∧
      reached.SwitchLaws honorStruts := by
  obtain ⟨-, moved, -, arranged_after, heads_eq, size, -⟩ :=
    arranged.run honorStruts destinations within
  exact ⟨heads_eq, ⟨moved, arranged_after.active, size⟩, arranged_after.switchLaws honorStruts⟩

/-- Two heads that share an edge, and on the left one a window that is larger than both. -/
def sideBySide : Workspace where
  root := ⟨-3, 0, 8, 4⟩
  heads := [⟨-3, 0, 3, 4⟩, ⟨0, 0, 5, 3⟩]
  active := some 1
  windows := [⟨1, ⟨-10, -10, 16, 25⟩, ⟨2, 2, 20, 2⟩, none, none, false, false⟩]
  stacking := [1]
  faults := []

theorem arranged_sideBySide :
    sideBySide.Arranged
      ⟨1, ⟨-10, -10, 16, 25⟩, ⟨2, 2, 20, 2⟩, none, none, false, false⟩ where
  reliable := reliable_of_faults_eq_nil rfl
  separate := separateHeads_pair (by decide) (by decide) (by decide)
  active := rfl
  decorated := by decide
  fits := by constructor <;> decide
  onHead := ⟨⟨-3, 0, 3, 4⟩, by decide, by decide⟩

theorem sideBySide_switches_along_runs :
    (∀ destination ∈ ([.neighbour .right, .head 0] : List Destination),
        destination.IsWithin sideBySide.heads.length) ∧
      let reached := sideBySide.switchAll true [.neighbour .right, .head 0]
      reached.heads = sideBySide.heads ∧
        (∃ moved, reached.activeWindow? = some moved ∧
          moved.frame.width = 16 ∧ moved.frame.height = 25) ∧
        reached.SwitchLaws true :=
  ⟨by decide, switches_along_runs sideBySide _ true arranged_sideBySide _ (by decide)⟩

/-- A window whose frame reaches to the left of its corner, on the left one of two heads. -/
def reversed : Workspace where
  root := ⟨0, 0, 6, 3⟩
  heads := [⟨0, 0, 3, 3⟩, ⟨3, 0, 3, 3⟩]
  active := some 1
  windows := [⟨1, ⟨2, 1, -3, 1⟩, .zero, none, none, false, false⟩]
  stacking := [1]
  faults := []

/-- Half of a negative width is rounded towards zero as well, so that a frame of such a width may
be centered with margins that are two pixels apart. -/
theorem reversed_margins_uneven :
    reversed.Arranged ⟨1, ⟨2, 1, -3, 1⟩, .zero, none, none, false, false⟩ ∧
      (reversed.run true (.switch (.neighbour .right))).1.failure = none ∧
      ∃ moved head,
        (reversed.run true (.switch (.neighbour .right))).2.activeWindow? = some moved ∧
        reversed.heads[1]? = some head ∧
        moved.frame.center = head.center ∧
        moved.frame.x - head.x = 2 ∧ head.right - moved.frame.right = 4 := by
  refine ⟨?_, rfl, _, _, rfl, rfl, by decide, by decide, by decide⟩
  constructor
  · exact reliable_of_faults_eq_nil rfl
  · exact separateHeads_pair (by decide) (by decide) (by decide)
  · rfl
  · decide
  · constructor <;> decide
  · exact ⟨⟨0, 0, 3, 3⟩, by decide, by decide⟩

end Runs

end WindowPlacement.Workspace
