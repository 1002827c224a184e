/-
This file holds an office: the lenders of one process, the wrappers, the native parties, and what
exists once for all of them. That is the place of the lender whose callbacks the native layer
calls, and the handler that sweeps when the process ends. An action changes the office and ends
with an answer or with a fault; what it changed before a fault stays changed.
-/

import MemoryLending.Lender.Reach
import MemoryLending.Sensor
import MemoryLending.Wrapper

namespace MemoryLending

/-- Everything of one process. -/
structure Office where
  arena : Arena
  lenders : Array Lender
  wrappers : Array Wrapper
  sensors : Array Sensor
  hosts : Array Host
  /-- The lender that serves the native callbacks. -/
  served : Option Nat
  /-- Whether the process sweeps when it ends. -/
  sweepsAtExit : Bool
  journal : Journal

/-- A change of the office that ends with an answer or with a fault. -/
abbrev Action := ExceptT Fault (StateM Office)

namespace Office

/-- The office in which nothing has happened yet. -/
def start (arena : Arena) (policies : List Policy) : Office :=
  { arena
    lenders := (policies.map Lender.ofPolicy).toArray
    wrappers := #[]
    sensors := #[]
    hosts := #[]
    served := none
    sweepsAtExit := false
    journal := [] }

/-- A lender by its number; past the last one, a lender nobody can change. -/
def lender (office : Office) (index : Nat) : Lender :=
  office.lenders.getD index default

/-- The desk of a lender. -/
def desk (office : Office) (index : Nat) : Desk :=
  ⟨office.arena, office.lender index, office.journal⟩

/-- The office after work at the desk of a lender. -/
def withDesk (office : Office) (index : Nat) (desk : Desk) : Office :=
  { office with
    arena := desk.arena
    lenders := office.lenders.setIfInBounds index desk.lender
    journal := desk.journal }

/-- Whether somebody holds a wrapper. -/
def alive (office : Office) (id : WrapperId) : Bool :=
  match office.wrappers[id]? with
  | some wrapper => wrapper.alive
  | none => false

/-- Whether the release of a wrapper has been claimed. -/
def released (office : Office) (id : WrapperId) : Bool :=
  match office.wrappers[id]? with
  | some wrapper => wrapper.flag.released
  | none => true

/-- How deep wrappers can hold one another, counted generously. -/
def depth (office : Office) : Nat := 2 * office.wrappers.size + 2

/-- The number of wrappers on the roster of a lender that are alive. -/
def livingCount (office : Office) (index : Nat) : Nat :=
  ((office.lender index).roster.living office.alive).length

end Office

namespace Action

/-- Works at the desk of a lender. -/
def atDesk {Answer : Type} (index : Nat) (work : Desk → Except Fault Answer × Desk) :
    Action Answer := fun office =>
  let (answer, desk) := work (office.desk index)
  (answer, office.withDesk index desk)

/-- Works at the desk of a lender, without an answer. -/
def changeDesk (index : Nat) (work : Desk → Desk) : Action Unit :=
  atDesk index fun desk => (.ok (), work desk)

/-- Reads something off the desk of a lender. -/
def readDesk {Answer : Type} (index : Nat) (question : Desk → Answer) : Action Answer :=
  return question ((← get).desk index)

/-- Leaves a record. -/
def log (event : Event) : Action Unit :=
  modify fun office => { office with journal := event :: office.journal }

/-- Refuses with a violation. -/
def refuse {Answer : Type} (violation : Violation) : Action Answer :=
  throw (.refused violation)

/-- Turns a violation found at a desk into a fault. -/
def orRefuse {Answer : Type} (work : Desk → Except Violation Answer × Desk) (desk : Desk) :
    Except Fault Answer × Desk :=
  match work desk with
  | (.ok answer, desk) => (.ok answer, desk)
  | (.error violation, desk) => (.error (.refused violation), desk)

/-! ### Wrappers and rosters -/

/-- Makes a wrapper with one holder. -/
def makeWrapper (name : String) (lender : Nat) (duty : Duty) : Action WrapperId :=
  modifyGet fun office =>
    (office.wrappers.size,
      { office with
        wrappers := office.wrappers.push ⟨name, lender, duty, ReleaseFlag.held, 1⟩ })

/-- Changes a wrapper. -/
def changeWrapper (id : WrapperId) (change : Wrapper → Wrapper) : Action Unit :=
  modify fun office => { office with wrappers := office.wrappers.modify id change }

/-- Holds a wrapper once more. -/
def hold (id : WrapperId) : Action Unit :=
  changeWrapper id fun wrapper => { wrapper with holders := wrapper.holders + 1 }

/-- Changes the roster of a lender, given which wrappers are alive. -/
def changeRoster (lender : Nat) (change : Roster → (WrapperId → Bool) → Roster) : Action Unit :=
  modify fun office =>
    { office with
      lenders := office.lenders.modify lender fun lender =>
        { lender with roster := change lender.roster office.alive } }

/-- Puts a wrapper on the roster of a lender. -/
def enroll (lender : Nat) (id : WrapperId) : Action Unit :=
  changeRoster lender fun roster alive => roster.enroll alive id

/-- Takes a wrapper off the roster of a lender. -/
def withdraw (lender : Nat) (id : WrapperId) : Action Unit :=
  changeRoster lender fun roster alive => roster.withdraw alive id

end Action

end MemoryLending
