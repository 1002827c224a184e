/-
This file keeps the book of loans. A loan is a block in native hands: its token, and the length
that was asked for, which may be less than the block has. The book is ordered by base address.
Native code hands back addresses inside a loan ("37 bytes into image 4"), so the book answers
range queries: bisection finds the nearest base at or below an address, and that one loan is
then checked for the whole range. A new loan must not touch a live one; only its two neighbours
are looked at, which suffices because the book is ordered and free of overlaps.
-/

import MemoryLending.Arena
import MemoryLending.Fault
import MemoryLending.Token

namespace MemoryLending

/-- A block in native hands. -/
structure Loan where
  token : Token
  block : Block
  /-- The number of bytes that were asked for. -/
  length : Nat
  deriving DecidableEq, Repr, Inhabited

namespace Loan

/-- The address the native layer was given. -/
def base (loan : Loan) : Nat := loan.block.address

/-- The offset of a range in a loan, if the whole range lies in it. A range begins strictly
below the end of the loan, also when it is empty. -/
def offset? (loan : Loan) (address size : Nat) : Option Nat :=
  if address < loan.base then none
  else
    let offset := address - loan.base
    if loan.length ≤ offset then none
    else
      match Word.add? offset size with
      | some finish => if finish ≤ loan.length then some offset else none
      | none => none

theorem offset?_eq_some_iff {loan : Loan} {address size offset : Nat}
    (fits : loan.length < Word.limit) :
    loan.offset? address size = some offset ↔
      loan.base + offset = address ∧ offset < loan.length ∧ offset + size ≤ loan.length := by
  unfold offset?
  by_cases below : address < loan.base
  · simp only [below, if_true, reduceCtorEq, false_iff]
    omega
  · by_cases beyond : loan.length ≤ address - loan.base
    · simp only [below, if_false, beyond, if_true, reduceCtorEq, false_iff]
      omega
    · simp only [below, if_false, beyond]
      by_cases small : address - loan.base + size < Word.limit
      · simp only [Word.add?_of_lt small]
        by_cases inside : address - loan.base + size ≤ loan.length
        · simp only [inside, if_true, Option.some.injEq]
          omega
        · simp only [inside, if_false, reduceCtorEq, false_iff]
          omega
      · have none : Word.add? (address - loan.base) size = none := by simp [Word.add?, small]
        simp only [none, reduceCtorEq, false_iff]
        omega

/-- No range lies in a loan of no bytes. -/
theorem positive_of_inside {loan : Loan} {address size offset : Nat}
    (inside : loan.offset? address size = some offset) : loan.length ≠ 0 := by
  intro none
  unfold offset? at inside
  rw [none] at inside
  split at inside
  · cases inside
  · dsimp only at inside
    rw [if_pos (Nat.zero_le _)] at inside
    cases inside

end Loan

/-- The live loans, ordered by base address. -/
structure LoanBook where
  loans : Array Loan
  deriving Repr, Inhabited

namespace LoanBook

/-- The book without loans. -/
def empty : LoanBook := ⟨#[]⟩

/-- The number of live loans. -/
def count (book : LoanBook) : Nat := book.loans.size

/-- The live loans, the lowest base first. -/
def toList (book : LoanBook) : List Loan := book.loans.toList

/-- The first place in `low … high` whose base is not below an address, found by bisection. -/
def bisect (loans : Array Loan) (address low high : Nat) : Nat :=
  if low < high then
    let middle := (low + high) / 2
    match loans[middle]? with
    | some loan =>
      if loan.base < address then bisect loans address (middle + 1) high
      else bisect loans address low middle
    | none => low
  else low
termination_by high - low
decreasing_by all_goals omega

/-- The number of loans whose base is below an address. -/
def rank (book : LoanBook) (address : Nat) : Nat :=
  bisect book.loans address 0 book.loans.size

/-- The loan whose base is exactly an address. -/
def at? (book : LoanBook) (base : Nat) : Option Loan :=
  match book.loans[book.rank base]? with
  | some loan => if loan.base = base then some loan else none
  | none => none

/-- The loan with the nearest base below an address. -/
def below? (book : LoanBook) (address : Nat) : Option Loan :=
  match book.rank address with
  | 0 => none
  | place + 1 => book.loans[place]?

/-- The loan with the nearest base above an address that is no base. -/
def above? (book : LoanBook) (address : Nat) : Option Loan :=
  book.loans[book.rank address]?

/-- Refuses a loan that runs past `bound`, the base of the loan after it. -/
def checkEnd (loan : Loan) (bound : Nat) (violation : Violation) : Except Fault Unit :=
  match Word.add? loan.base loan.length with
  | some finish => if bound < finish then .error (.refused violation) else .ok ()
  | none => .error (.panicked .addOverflow)

/-- Refuses a loan that begins at a live base or runs into one of its neighbours. -/
def checkRoom (book : LoanBook) (loan : Loan) : Except Fault Unit :=
  if (book.at? loan.base).isSome then .error (.refused (.duplicate loan.base))
  else do
    match book.below? loan.base with
    | some lower => checkEnd lower loan.base (.overlap loan.base loan.length lower.base)
    | none => .ok ()
    match book.above? loan.base with
    | some upper => checkEnd loan upper.base (.overlap loan.base loan.length upper.base)
    | none => .ok ()

/-- Writes a new loan into the book, unless it conflicts with a live one. -/
def enter (book : LoanBook) (loan : Loan) : Except Fault LoanBook :=
  match book.checkRoom loan with
  | .ok () => .ok ⟨book.loans.insertIdxIfInBounds (book.rank loan.base) loan⟩
  | .error fault => .error fault

/-- Strikes the loan whose base is exactly an address. -/
def strike (book : LoanBook) (base : Nat) : LoanBook :=
  if (book.at? base).isSome then ⟨book.loans.eraseIdxIfInBounds (book.rank base)⟩ else book

/-- The loan that contains a range, with the offset of the range in it. -/
def find? (book : LoanBook) (address size : Nat) : Option (Loan × Nat) :=
  let candidate := match book.at? address with
    | some loan => some loan
    | none => book.below? address
  match candidate with
  | some loan => (loan.offset? address size).map fun offset => (loan, offset)
  | none => none

/-- The number of bytes on loan, if it is a machine word. -/
def bytes? (book : LoanBook) : Option Nat :=
  Word.sum? (book.toList.map Loan.length)

end LoanBook

/-- A window on a loaned block. It keeps the block from being used again, also when the loan
has been given back. -/
structure View where
  block : Block
  token : Token
  offset : Nat
  length : Nat
  deriving DecidableEq, Repr, Inhabited

namespace View

/-- The window on a range of a loan. -/
def ofLoan (loan : Loan) (offset length : Nat) : View :=
  ⟨loan.block, loan.token, offset, length⟩

/-- The address of the block. -/
def base (view : View) : Nat := view.block.address

/-- The address of the first byte, if it is a machine word. -/
def address? (view : View) : Option Nat := Word.add? view.base view.offset

/-- The structural text of a view. -/
def outline (view : View) : Except Fault String :=
  match view.address? with
  | some address =>
    .ok ("BufferView \x7b token: " ++ view.token.outline ++ ", address: " ++ Word.hex address ++
      s!", offset: {view.offset}, len: {view.length} \x7d")
  | none => .error (.panicked .addOverflow)

end View

end MemoryLending
