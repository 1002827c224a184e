/-
This file retires wrappers and lets go of them. Retirement releases what a wrapper holds, once.
Letting go of a wrapper takes one holder away; when that was the last one, a self-retiring
wrapper retires, and then the wrapper lets go of what it still holds. Both follow the chain of
wrappers that hold one another, and the depth they are given bounds how far; `Office.depth` is
more than any chain of the office needs.
-/

import MemoryLending.Office.Callbacks

namespace MemoryLending

namespace Action

/-- Claims the release of a wrapper. The answer is the wrapper, if this is the first claim. -/
def claim (id : WrapperId) : Action (Option Wrapper) := do
  match (← get).wrappers[id]? with
  | none => return none
  | some wrapper =>
    let (first, flag) := wrapper.flag.claim
    changeWrapper id fun wrapper => { wrapper with flag }
    return if first then some wrapper else none

/-- Takes one holder away. The answer is the wrapper, if that was the last one. -/
def unhold (id : WrapperId) : Action (Option Wrapper) := do
  match (← get).wrappers[id]? with
  | none => return none
  | some wrapper =>
    if wrapper.holders = 0 then return none
    changeWrapper id fun wrapper => { wrapper with holders := wrapper.holders - 1 }
    return if wrapper.holders = 1 then some wrapper else none

/-- Gives a wrapper another duty. -/
def setDuty (id : WrapperId) (duty : Duty) : Action Unit :=
  changeWrapper id fun wrapper => { wrapper with duty }

/-- Gives a loan of a wrapper back. If the lender refuses it, there is a record. -/
def returnLoan (lender address : Nat) (token : Token) : Action Unit := do
  try
    atDesk lender (orRefuse (·.reclaim address token))
  catch
    | .refused violation => log (.wrapperFreeFailed violation)
    | fault => throw fault

/-- Makes a call for a wrapper. -/
def doChore (id : WrapperId) : Chore → Action Unit
  | .returnLoan lender address token => returnLoan lender address token
  | .withdraw lender => withdraw lender id

mutual

/-- Retires a wrapper, unless that has been done before. -/
def retireWithin : (depth : Nat) → WrapperId → Action Unit
  | 0, _ => pure ()
  | depth + 1, id => do
    match ← claim id with
    | none => pure ()
    | some wrapper =>
      if wrapper.duty.announced then log (.wrapperRetired wrapper.name)
      match wrapper.duty with
      | .plain | .automatic => pure ()
      | .loan address token => returnLoan wrapper.lender address token
      | .lease none => pure ()
      | .lease (some replica) =>
        setDuty id (.lease none)
        changeDesk wrapper.lender (·.endLease replica)
      | .parent none => pure ()
      | .parent (some child) =>
        setDuty id (.parent none)
        retireWithin depth child
        letGoWithin depth child
      | .owner none => pure ()
      | .owner (some child) =>
        setDuty id (.owner none)
        letGoWithin depth child
      | .spawner _ =>
        let spawned ← makeWrapper (wrapper.name ++ "+") wrapper.lender .plain
        enroll wrapper.lender spawned
        setDuty id (.spawner (some spawned))
      | .capture _ none => pure ()
      | .capture sensor (some frame) =>
        setDuty id (.capture sensor none)
        handBack sensor frame
      | .session sensor => halt sensor
      | .faulty => throw (.panicked (.refusedRetirement wrapper.name))
      | .chores todo => todo.forM (doChore id)
      if wrapper.duty.selfRetiring then withdraw wrapper.lender id

/-- Takes one holder of a wrapper away. -/
def letGoWithin : (depth : Nat) → WrapperId → Action Unit
  | 0, _ => pure ()
  | depth + 1, id => do
    match ← unhold id with
    | none => pure ()
    | some wrapper =>
      if wrapper.duty.selfRetiring then retireWithin depth id
      if wrapper.duty.announced then log (.wrapperDropped wrapper.name)
      match wrapper.duty.child? with
      | some child => letGoWithin depth child
      | none => pure ()

end

/-- Retires a wrapper, unless that has been done before. -/
def retire (id : WrapperId) : Action Unit := do
  retireWithin (← get).depth id

/-- Takes one holder of a wrapper away. -/
def letGo (id : WrapperId) : Action Unit := do
  letGoWithin (← get).depth id

/-- Takes one holder of each wrapper away, in order. -/
def letGoAll (ids : List WrapperId) : Action Unit :=
  ids.forM letGo

/-- Does some work while holding wrappers, and lets go of them in order when it ends, also when
it panics or fails. An abort ends everything at once. -/
def thenLetGo {Answer : Type} (ids : List WrapperId) (work : Action Answer) : Action Answer := do
  let outcome : Except Fault Answer ←
    try
      let answer ← work
      pure (.ok answer)
    catch
      | .aborted => throw .aborted
      | fault => pure (.error fault)
  letGoAll ids
  match outcome with
  | .ok answer => return answer
  | .error fault => throw fault

end Action

end MemoryLending
