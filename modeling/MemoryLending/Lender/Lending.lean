/-
This file lends memory to native code and takes it back. Every block that goes out is written
into the book of loans under a fresh token, and comes back only for the address and the token
it went out with. The block itself can be used again when neither the loan nor a view holds it
any more, so a reader keeps what it reads even if native code has returned the loan meanwhile.
-/

import MemoryLending.Lender

namespace MemoryLending

namespace Desk

/-- The block for a loan. A loan of no bytes needs an address of its own, so it gets one byte
that never enters the reserve. -/
def blockFor (desk : Desk) (size : Nat) : Except Fault Block × Desk :=
  if size = 0 then
    (.ok (desk.arena.nextBlock 1 false), { desk with arena := desk.arena.place 1 })
  else desk.procure size

/-- The token of a new loan is used up whether or not the loan comes about. -/
def drawToken (desk : Desk) : Desk :=
  { desk with lender := { desk.lender with nextToken := desk.lender.nextToken.next } }

/-- Lends `size` bytes. The answer is the address and the token for native code. If the block
conflicts with a live loan, it goes back and the loan does not come about. -/
def lend (desk : Desk) (size : Nat) : Except Fault (Nat × Token) × Desk :=
  match desk.blockFor size with
  | (.error fault, desk) => (.error fault, desk)
  | (.ok block, desk) =>
    let token := desk.lender.nextToken
    let desk := desk.drawToken
    match desk.lender.loans.enter ⟨token, block, size⟩ with
    | .ok loans =>
      (.ok (block.address, token),
        { desk with lender := { desk.lender with loans } }.log (.lent block.address size token))
    | .error fault => (.error fault, desk.retireBlock block)

/-- Lets go of a block that has lost a holder, if it was the last one. -/
def unpin (desk : Desk) (block : Block) : Desk :=
  if desk.lender.pins block.id then desk else desk.retireBlock block

/-- Takes a loan back. It must be returned at its base and with its token. -/
def reclaim (desk : Desk) (address : Nat) (token : Token) : Except Violation Unit × Desk :=
  match desk.lender.loans.at? address with
  | some loan =>
    if loan.token = token then
      let desk :=
        { desk with lender := { desk.lender with loans := desk.lender.loans.strike address } }
      (.ok (), (desk.log (.reclaimed address loan.length token)).unpin loan.block)
    else (.error (.wrongToken address loan.token.number token.number), desk)
  | none =>
    match desk.lender.policy.unknownReturn with
    | .reject => (.error (.untracked address), desk)
    | .ignore => (.ok (), desk.log (.unknownReturnIgnored address token))

/-- Opens a view on a range, if one loan contains it. -/
def openView (desk : Desk) (address size : Nat) : Option View × Desk :=
  match desk.lender.loans.find? address size with
  | some (loan, offset) =>
    let view := View.ofLoan loan offset size
    (some view, { desk with lender := { desk.lender with views := view :: desk.lender.views } })
  | none => (none, desk)

/-- Closes a view. -/
def closeView (desk : Desk) (view : View) : Desk :=
  if view ∈ desk.lender.views then
    { desk with
      lender := { desk.lender with views := desk.lender.views.erase view } }.unpin view.block
  else desk

/-- The bytes a view shows. -/
def viewBytes (desk : Desk) (view : View) : Bytes :=
  desk.arena.read (view.base + view.offset) view.length

end Desk

namespace Lender

/-- Whether one loan contains a range. -/
def owns (lender : Lender) (address size : Nat) : Bool :=
  (lender.loans.find? address size).isSome

end Lender

end MemoryLending
