/-
This file holds what an operator can choose about a lender: how much its reserve keeps, and
what happens when something is returned that is not on loan.
-/

import MemoryLending.Reserve

namespace MemoryLending

/-- What happens when something is returned that is not on loan. -/
inductive UnknownReturn where
  /-- It is a violation. -/
  | reject
  /-- It is recorded and let pass. -/
  | ignore
  deriving DecidableEq, Repr

namespace UnknownReturn

/-- The word for a rule. -/
def word : UnknownReturn → String
  | reject => "fail"
  | ignore => "ignore"

/-- The rule with a word, spelled exactly. -/
def ofWord? : String → Option UnknownReturn
  | "fail" => some .reject
  | "ignore" => some .ignore
  | _ => none

end UnknownReturn

/-- The choices of an operator about one lender. -/
structure Policy where
  budget : Budget
  unknownReturn : UnknownReturn
  deriving DecidableEq, Repr

/-- Keep 256 MiB in 64 blocks, and reject what is not on loan. -/
def Policy.standard : Policy := ⟨⟨256 * 1024 * 1024, 64⟩, .reject⟩

end MemoryLending
