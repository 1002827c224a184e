/-
This file keeps the roster of wrappers that hold native resources. The roster does not keep a
wrapper alive; it is told from outside which wrappers are. Entries of dead wrappers are dropped
whenever somebody withdraws, when the roster is mustered, and when it has doubled since dead
entries were last swept out on enrolment, so that it stays small however many wrappers come and
go. A wrapper that enrols twice has two entries.
-/

namespace MemoryLending

/-- Names a wrapper for as long as the process lives. -/
abbrev WrapperId := Nat

/-- The wrappers enrolled, in the order of enrolment. -/
structure Roster where
  entries : List WrapperId
  /-- The length at which the next enrolment sweeps dead entries out first. -/
  sweepAt : Nat
  deriving DecidableEq, Repr, Inhabited

namespace Roster

/-- The roster of nobody. -/
def empty : Roster := ⟨[], 0⟩

/-- A roster shorter than this is not swept on enrolment. -/
def sweepFloor : Nat := 32

/-- The number of entries, dead ones included. -/
def count (roster : Roster) : Nat := roster.entries.length

/-- The entries of wrappers that are alive. -/
def living (roster : Roster) (alive : WrapperId → Bool) : List WrapperId :=
  roster.entries.filter alive

/-- Sweeps dead entries out and sets the length for the next sweep. -/
def sweep (roster : Roster) (alive : WrapperId → Bool) : Roster :=
  ⟨roster.living alive, max ((roster.living alive).length * 2) sweepFloor⟩

/-- Adds a wrapper at the end. -/
def enroll (roster : Roster) (alive : WrapperId → Bool) (wrapper : WrapperId) : Roster :=
  let swept := if roster.sweepAt ≤ roster.count then roster.sweep alive else roster
  { swept with entries := swept.entries ++ [wrapper] }

/-- Adds a wrapper `count` times. The answer has the number of entries after each enrolment. -/
def enrollTimes (roster : Roster) (alive : WrapperId → Bool) (wrapper : WrapperId) :
    (count : Nat) → Roster × List Nat
  | 0 => (roster, [])
  | count + 1 =>
    let roster := roster.enroll alive wrapper
    let (last, counts) := roster.enrollTimes alive wrapper count
    (last, roster.count :: counts)

/-- Takes every entry of a wrapper out, and with it the dead ones. -/
def withdraw (roster : Roster) (alive : WrapperId → Bool) (wrapper : WrapperId) : Roster :=
  { roster with entries := (roster.living alive).filter (· != wrapper) }

/-- Calls everybody up and empties the roster: the wrappers alive in their order, and the
number of dead entries. -/
def muster (roster : Roster) (alive : WrapperId → Bool) : List WrapperId × Nat × Roster :=
  let living := roster.living alive
  (living, roster.count - living.length, { roster with entries := [] })

/-- The entries of the living are what the roster is about: sweeping keeps them. -/
theorem living_sweep (roster : Roster) (alive : WrapperId → Bool) :
    (roster.sweep alive).living alive = roster.living alive := by
  simp [sweep, living]

theorem living_enroll (roster : Roster) (alive : WrapperId → Bool) (wrapper : WrapperId) :
    (roster.enroll alive wrapper).living alive =
      roster.living alive ++ [wrapper].filter alive := by
  unfold enroll
  split <;> simp [sweep, living, List.filter_append]

theorem living_withdraw (roster : Roster) (alive : WrapperId → Bool) (wrapper : WrapperId) :
    (roster.withdraw alive wrapper).living alive =
      (roster.living alive).filter (· != wrapper) := by
  simp only [withdraw, living, List.filter_filter]
  congr 1
  funext id
  cases alive id <;> simp

end Roster

end MemoryLending
