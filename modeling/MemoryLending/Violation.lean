/-
This file lists the contract violations a lender detects. None of them is transient: each one
says that some party broke the rules of lending. A violation is a cause with the figures that
identify it; its wording and its structural text are two functions of the cause, so that no
other module spells a message.
-/

import MemoryLending.Word

namespace MemoryLending

/-- A broken rule of lending, with the figures that identify it. -/
inductive Violation where
  /-- The native layer asked for a negative number of bytes. -/
  | invalidSize (size : Int)
  /-- Address zero stood where native memory was expected. -/
  | nullAddress
  /-- A loan was given back at an address that is no live base. -/
  | untracked (address : Nat)
  /-- A loan was given back with the token of another loan. -/
  | wrongToken (address tracked given : Nat)
  /-- A new loan begins where a live one begins. -/
  | duplicate (address : Nat)
  /-- A new loan runs into a live one. -/
  | overlap (address length existing : Nat)
  /-- A replica was asked for with another size than the one it has. -/
  | sizeMismatch (address held requested : Nat)
  /-- A reference was given back to a replica that nobody holds a reference to. -/
  | noReplica (address : Nat)
  /-- Loans were left when every wrapper had been retired. -/
  | outstanding (count : Nat)
  /-- The resource behind a wrapper has already been released. -/
  | alreadyReleased
  /-- Another lender already serves the native callbacks. -/
  | servedElsewhere
  /-- The host did not accept the callbacks. -/
  | hostRefused (result : Int)
  deriving DecidableEq, Repr, Inhabited

namespace Violation

/-- The name under which a violation is reported. -/
def name : Violation → String
  | invalidSize _ => "InvalidSize"
  | nullAddress => "NullAddress"
  | untracked _ => "UnknownAddress"
  | wrongToken .. => "ContextMismatch"
  | duplicate _ => "DuplicateAddress"
  | overlap .. => "OverlappingRange"
  | sizeMismatch .. => "CacheSizeMismatch"
  | noReplica _ => "CacheEntryNotFound"
  | outstanding _ => "OutstandingAllocations"
  | alreadyReleased => "AlreadyDisposed"
  | servedElsewhere => "AlreadyHooked"
  | hostRefused _ => "HookFailed"

/-- The sentence that tells an operator what happened. -/
def message : Violation → String
  | invalidSize size => s!"invalid allocation size: {size}"
  | nullAddress => "null native address"
  | untracked address => "free of untracked address " ++ Word.hex address
  | wrongToken address tracked given =>
    "allocation at " ++ Word.hex address ++ s!" is tracked as #{tracked} but free was given #{given}"
  | duplicate address => "address " ++ Word.hex address ++ " is already tracked"
  | overlap address length existing =>
    "range " ++ Word.hex address ++ s!"+{length} overlaps allocation at " ++ Word.hex existing
  | sizeMismatch address held requested =>
    "shadow buffer at " ++ Word.hex address ++ s!" holds {held} bytes, {requested} requested"
  | noReplica address => "no shadow buffer cached for " ++ Word.hex address
  | outstanding count => s!"{count} native allocation(s) still outstanding after forced disposal"
  | alreadyReleased => "native resource already released"
  | servedElsewhere => "allocator hooks are already installed for another bridge"
  | hostRefused result => s!"sensor SDK refused allocator hooks: result {result}"

/-- The fields of a violation that has named ones, in their written order. -/
def fields : Violation → List (String × Nat)
  | wrongToken address tracked given =>
    [("address", address), ("tracked", tracked), ("given", given)]
  | overlap address length existing =>
    [("address", address), ("len", length), ("existing", existing)]
  | sizeMismatch address held requested =>
    [("address", address), ("cached", held), ("requested", requested)]
  | _ => []

/-- The structural text: the name, and in it the figures in decimal. -/
def outline : Violation → String
  | invalidSize size => s!"InvalidSize({size})"
  | untracked address => s!"UnknownAddress({address})"
  | duplicate address => s!"DuplicateAddress({address})"
  | noReplica address => s!"CacheEntryNotFound({address})"
  | outstanding count => s!"OutstandingAllocations({count})"
  | hostRefused result => s!"HookFailed({result})"
  | violation =>
    match violation.fields with
    | [] => violation.name
    | fields =>
      let written := fields.map fun (field, value) => s!"{field}: {value}"
      violation.name ++ " \x7b " ++ ", ".intercalate written ++ " \x7d"

end Violation

end MemoryLending
