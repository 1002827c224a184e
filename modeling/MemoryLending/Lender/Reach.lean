/-
This file gives access to memory that native code points at. A range inside one loan is read in
place, through a view; any other range is foreign and is read through a lease of its replica.
-/

import MemoryLending.Lender.Lending
import MemoryLending.Lender.Sharing

namespace MemoryLending

/-- Access to a range of native memory. -/
inductive Reach where
  /-- The range lies in a loan and is read in place. -/
  | inPlace (view : View)
  /-- The range is foreign and is read through a replica. -/
  | copied (replica : Replica)
  deriving DecidableEq, Repr, Inhabited

namespace Reach

/-- Whether the range lies in a loan. -/
def isInPlace : Reach → Bool
  | inPlace _ => true
  | copied _ => false

/-- The structural text of an access. -/
def outline : Reach → Except Fault String
  | inPlace view => view.outline.map fun text => "Owned(" ++ text ++ ")"
  | copied replica => .ok ("Shadow(" ++ replica.leaseOutline ++ ")")

end Reach

namespace Desk

/-- Gives access to `size` bytes at an address. -/
def reach (desk : Desk) (address size : Nat) : Except Fault Reach × Desk :=
  if address = 0 then (.error (.refused .nullAddress), desk)
  else
    match desk.openView address size with
    | (some view, desk) => (.ok (.inPlace view), desk)
    | (none, desk) =>
      match desk.takeLease address size with
      | (.ok replica, desk) => (.ok (.copied replica), desk)
      | (.error fault, desk) => (.error fault, desk)

/-- Ends an access. -/
def letGo (desk : Desk) : Reach → Desk
  | .inPlace view => desk.closeView view
  | .copied replica => desk.endLease replica

/-- The bytes an access shows. -/
def reachBytes (desk : Desk) : Reach → Bytes
  | .inPlace view => desk.viewBytes view
  | .copied replica => desk.replicaBytes replica

end Desk

end MemoryLending
