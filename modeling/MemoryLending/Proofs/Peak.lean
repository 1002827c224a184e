/-
This file follows a measure through a run: the peak of a run is the greatest value that the
measure has had so far, in the first state, in the last one and in every state between. What is
bounded by how full something has been is bounded by a peak.
-/

namespace MemoryLending

section Peak

variable {State Move : Type} (step : State → Move → State) (measure : State → Nat)

/-- The greatest value that a measure has in a run, from the first state to the last. -/
def peak (state : State) : List Move → Nat
  | [] => measure state
  | move :: rest => max (measure state) (peak (step state move) rest)

variable (state : State)

theorem peak_concat (front : List Move) (move : Move) :
    peak step measure state (front ++ [move]) =
      max (peak step measure state front)
        (measure (step (front.foldl step state) move)) := by
  induction front generalizing state with
  | nil => rfl
  | cons first rest inductionHypothesis =>
    show max (measure state) (peak step measure (step state first) (rest ++ [move])) = _
    rw [inductionHypothesis]
    exact (Nat.max_assoc _ _ _).symm

/-- The last state of a run is one of its states. -/
theorem le_peak (moves : List Move) :
    measure (moves.foldl step state) ≤ peak step measure state moves := by
  induction moves generalizing state with
  | nil => exact Nat.le_refl _
  | cons move rest inductionHypothesis =>
    exact Nat.le_trans (inductionHypothesis (step state move)) (Nat.le_max_right _ _)

/-- A peak never falls: a longer run has every state of a shorter one. -/
theorem peak_le_of_prefix {front moves : List Move} (shorter : front <+: moves) :
    peak step measure state front ≤ peak step measure state moves := by
  induction front generalizing state moves with
  | nil =>
    cases moves with
    | nil => exact Nat.le_refl _
    | cons move rest => exact Nat.le_max_left _ _
  | cons first rest inductionHypothesis =>
    obtain ⟨later, rfl⟩ := shorter
    have grows := inductionHypothesis (step state first) (List.prefix_append rest later)
    exact Nat.max_le.mpr ⟨Nat.le_max_left _ _, Nat.le_trans grows (Nat.le_max_right _ _)⟩

end Peak

end MemoryLending
