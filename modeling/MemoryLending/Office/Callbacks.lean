/-
This file answers the native layer. The callbacks carry nothing that says whose they are, so
they are answered by the lender in the one place of the office. Nothing may unwind into native
code: a request that cannot be met is recorded and answered with null, and a return that breaks
the contract is recorded and ends the process. The sensor is the native code of a simulation;
it takes frames through the callbacks and hands them back.
-/

import MemoryLending.Office

namespace MemoryLending

/-- What the allocate callback grants: an address, and the token it leaves behind. -/
structure Grant where
  address : Nat
  context : Token
  deriving DecidableEq, Repr

namespace Action

/-- Answers the allocate callback; `none` is null. The native layer gives a place for the token
or does not. -/
def answerAllocate (size : Int) (hasContext : Bool) : Action (Option Grant) := do
  match (← get).served with
  | none =>
    log .allocateUnserved
    return none
  | some lender =>
    if size < 0 then
      log (.allocateNegative size)
      return none
    else if !hasContext then
      log (.allocateWithoutContext size.toNat)
      return none
    else
      try
        let (address, token) ← atDesk lender (·.lend size.toNat)
        return some ⟨address, token⟩
      catch
        | .refused violation =>
          log (.allocateFailed violation size.toNat)
          return none
        | _ => throw .aborted

/-- Answers the free callback. -/
def answerFree (address : Nat) (context : Token) : Action Unit := do
  match (← get).served with
  | none =>
    log .freeUnserved
    throw .aborted
  | some lender =>
    try
      atDesk lender (orRefuse (·.reclaim address context))
    catch
      | .refused violation =>
        log (.freeBrokeContract violation)
        throw .aborted
      | _ => throw .aborted

/-! ### The simulated sensor -/

/-- Makes a sensor with `count` buffers of its own, if a block can hold the table of them. -/
def makeSensor (frameLength count : Nat) : Action Nat := do
  if Word.longestBlock < count * Sensor.entryLength then throw (.panicked .capacityOverflow)
  modifyGet fun office =>
    let (arena, buffers) := Sensor.placeBuffers office.arena count 0
    (office.sensors.size,
      { office with arena, sensors := office.sensors.push ⟨false, frameLength, buffers, true⟩ })

/-- A sensor by its number. -/
def sensor (index : Nat) : Action Sensor :=
  return (← get).sensors.getD index default

/-- Takes a frame from the allocate callback and writes its contents. -/
def grab (index : Nat) (sequence : UInt64) : Action Frame := do
  let sensor ← sensor index
  if !sensor.running then throw (.complained .sensorStopped)
  if !sensor.connected then throw (.complained .noCallbacks)
  if Sensor.longestFrame < sensor.frameLength then throw (.complained .lengthTooLarge)
  match ← answerAllocate sensor.frameLength true with
  | none => throw (.complained (.allocationRefused sensor.frameLength))
  | some grant =>
    modify fun office =>
      { office with
        arena := office.arena.write grant.address
          (Sensor.frameContents sequence sensor.frameLength) }
    return ⟨grant.address, grant.context, sensor.frameLength⟩

/-- Hands a frame back through the free callback. -/
def handBack (index : Nat) (frame : Frame) : Action Unit := do
  if (← sensor index).connected then answerFree frame.address frame.context

/-- One of the sensor's own buffers; the numbers go round. -/
def ownBuffer (index number : Nat) : Action Block := do
  let buffers := (← sensor index).buffers
  if buffers.isEmpty then throw (.panicked .zeroDivisor)
  return buffers.getD (number % buffers.length) default

/-- Stops a sensor for good. -/
def halt (index : Nat) : Action Unit := do
  if (← sensor index).running then
    modify fun office =>
      { office with
        sensors := office.sensors.modify index fun sensor => { sensor with running := false } }
    log .sensorStopped

end Action

end MemoryLending
