/-
This file retires every wrapper that is left. A sweep musters the roster of a lender, retires
each living wrapper that has not been retired yet, lets go of them all, and then looks for loans
that nobody has returned: those are a violation, since native code would keep addresses into a
process that is going away. A shutdown guard sweeps when it ends, and the exit handler sweeps
when the process ends.
-/

import MemoryLending.Office.Ownership

namespace MemoryLending

/-- The outcome of a sweep. -/
structure SweepReport where
  /-- Wrappers that were alive and have been retired by the sweep. -/
  retired : Nat
  /-- Entries that were dropped because the wrapper was already gone. -/
  pruned : Nat
  deriving DecidableEq, Repr

namespace Action

/-- Musters a roster and holds every wrapper on it that is alive. The answer is those wrappers,
the number of dead entries, and the roster left. -/
def holdLiving (roster : Roster) : Action (List WrapperId × Nat × Roster) := do
  let office ← get
  let (living, pruned, left) := roster.muster office.alive
  living.forM hold
  return (living, pruned, left)

/-- Musters the roster of a lender. -/
def muster (lender : Nat) : Action (List WrapperId × Nat) := do
  let (living, pruned, left) ← holdLiving ((← get).lender lender).roster
  changeRoster lender fun _ _ => left
  return (living, pruned)

/-- Retires those of the wrappers that have not been retired yet, and counts them. -/
def retireAll : List WrapperId → Action Nat
  | [] => return 0
  | id :: later => do
    if (← get).released id then retireAll later
    else
      retire id
      return 1 + (← retireAll later)

/-- Refuses to end a sweep while loans are left. -/
def requireNoLoans (lender : Nat) : Action Unit := do
  let loans ← readDesk lender (·.lender.loans)
  if loans.count ≠ 0 then
    match loans.bytes? with
    | none => throw (.panicked .addOverflow)
    | some bytes =>
      log (.loansOutlived loans.count bytes)
      refuse (.outstanding loans.count)

/-- Retires every wrapper on the roster of a lender. -/
def sweep (lender : Nat) : Action SweepReport := do
  let (living, pruned) ← muster lender
  let retired ← thenLetGo living (retireAll living)
  requireNoLoans lender
  let replicas ← readDesk lender (·.lender.replicas.count)
  if replicas ≠ 0 then log (.replicasRemain replicas)
  log (.sweepComplete retired pruned)
  return ⟨retired, pruned⟩

/-- A shutdown guard that ends in the normal way turns a failed sweep into a panic. -/
def endGuard (lender : Nat) : Action Unit := do
  try
    discard (sweep lender)
  catch
    | .refused violation => throw (.panicked (.shutdownFailed violation))
    | fault => throw fault

/-- A shutdown guard that a panic passes through can only record a failed sweep. A second panic
would end the process. -/
def unwindGuard {Answer : Type} (lender : Nat) : Action Answer := do
  try
    discard (sweep lender)
  catch
    | .refused violation => log (.sweepFailedUnwinding violation)
    | _ => throw .aborted
  throw (.panicked .unwinding)

/-- What happens when the process ends: if the callbacks were ever installed, the serving lender
sweeps, and a failure ends the process by an abort. -/
def exit : Action Unit := do
  let office ← get
  match office.sweepsAtExit, office.served with
  | true, some lender =>
    try
      discard (sweep lender)
    catch
      | .refused violation =>
        log (.exitSweepFailed violation)
        throw .aborted
      | _ => throw .aborted
  | _, _ => pure ()

end Action

end MemoryLending
