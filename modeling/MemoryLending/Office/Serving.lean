/-
This file installs the callbacks of a lender in a native party. There is one place in the
office for the lender that serves the callbacks. It is taken before the party sees the
callbacks, since the party may call them at once, and given up again if the party refuses. Once
a party has accepted, the place is never given up. Only the first installation talks to a party
at all; every installation that succeeds puts a wrapper on the roster.
-/

import MemoryLending.Office.Sweep

namespace MemoryLending

/-- A party that can be offered the callbacks. -/
inductive Party where
  | host (index : Nat)
  | sensor (index : Nat)
  deriving DecidableEq, Repr

namespace Action

/-- Makes a host without callbacks. -/
def makeHost (result : Int) (early : List Int) : Action Nat :=
  modifyGet fun office =>
    (office.hosts.size, { office with hosts := office.hosts.push ⟨result, early, false⟩ })

/-- A host by its number. -/
def host (index : Nat) : Action Host :=
  return (← get).hosts.getD index default

/-- Gives a host the callbacks or takes them away. -/
def connectHost (index : Nat) (connected : Bool) : Action Unit :=
  modify fun office =>
    { office with
      hosts := office.hosts.modify index fun host => { host with connected } }

/-- Offers the callbacks. The answer is what the party was granted meanwhile, and whether it
accepts. -/
def offer : Party → Action (List (Option Grant) × Except Violation Unit)
  | .host index => do
    let host ← host index
    connectHost index true
    let grants ← host.early.mapM fun size => answerAllocate size true
    return (grants, if host.result = 0 then .ok () else .error (.hostRefused host.result))
  | .sensor index => do
    if (← sensor index).connected then return ([], .error (.hostRefused Sensor.refusal))
    modify fun office =>
      { office with
        sensors := office.sensors.modify index fun sensor => { sensor with connected := true } }
    return ([], .ok ())

/-- Gives the place of the serving lender to a lender, or to nobody. -/
def setServed (served : Option Nat) : Action Unit :=
  modify fun office => { office with served }

/-- Takes the place of the serving lender. The answer is whether it was free. -/
def claimPlace (lender : Nat) : Action (Except Violation Bool) := do
  match (← get).served with
  | none =>
    setServed (some lender)
    return .ok true
  | some current => return if current = lender then .ok false else .error .servedElsewhere

/-- Takes the place and offers the callbacks. -/
def takePlace (lender : Nat) (party : Party) :
    Action (List (Option Grant) × Except Violation Unit) := do
  match ← claimPlace lender with
  | .error violation => return ([], .error violation)
  | .ok claimed =>
    match ← offer party with
    | (grants, .error violation) =>
      if claimed then setServed none
      return (grants, .error violation)
    | (grants, .ok ()) =>
      modify fun office => { office with sweepsAtExit := true }
      return (grants, .ok ())

/-- Notes that a lender serves the callbacks. -/
def setServing (lender : Nat) : Action Unit := do
  modify fun office =>
    { office with
      lenders := office.lenders.modify lender fun lender => { lender with serving := true } }
  log .callbacksInstalled

/-- Installs the callbacks of a lender, if that has not been done yet, and puts a wrapper on its
roster. The answer is what the party was granted meanwhile, and whether all went well. -/
def engage (lender : Nat) (party : Party) (wrapper : WrapperId) :
    Action (List (Option Grant) × Except Violation Unit) := do
  if (← get).lender lender |>.serving then
    enroll lender wrapper
    return ([], .ok ())
  match ← takePlace lender party with
  | (grants, .error violation) => return (grants, .error violation)
  | (grants, .ok ()) =>
    setServing lender
    enroll lender wrapper
    return (grants, .ok ())

/-- Opens a session with a sensor: a wrapper that stops the sensor when it retires, installed
with the callbacks of a lender. Without the callbacks there is no session. -/
def openSession (lender sensor : Nat) : Action WrapperId := do
  let session ← makeWrapper "" lender (.session sensor)
  let (_, outcome) ← engage lender (.sensor sensor) session
  match outcome with
  | .ok () => return session
  | .error violation =>
    letGo session
    refuse violation

end Action

end MemoryLending
