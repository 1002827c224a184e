/-
This file holds the flag that makes a release happen once. A wrapper may be told to release its
resource any number of times and by anybody; the first one who claims the flag does the work.
-/

import MemoryLending.Violation

namespace MemoryLending

/-- Whether the release of a resource has been claimed. -/
structure ReleaseFlag where
  released : Bool
  deriving DecidableEq, Repr

namespace ReleaseFlag

/-- The flag of a resource that is still held. -/
def held : ReleaseFlag := ⟨false⟩

/-- Claims the release. The answer is whether this is the first claim. -/
def claim (flag : ReleaseFlag) : Bool × ReleaseFlag := (!flag.released, ⟨true⟩)

/-- Refuses to go on with a resource whose release has been claimed. -/
def requireHeld (flag : ReleaseFlag) : Except Violation Unit :=
  if flag.released then .error .alreadyReleased else .ok ()

/-- The structural text of a flag. -/
def outline (flag : ReleaseFlag) : String := s!"DisposalState({flag.released})"

theorem claim_claim (flag : ReleaseFlag) : flag.claim.2.claim.1 = false := rfl

theorem requireHeld_claim (flag : ReleaseFlag) :
    flag.claim.2.requireHeld = .error .alreadyReleased := rfl

end ReleaseFlag

end MemoryLending
