/-
This file says what a lender answers when it is asked for a loan, given one back, or asked for a
view, and what it leaves: the loans, the views and the next token. Nothing in these answers tells
whether a block was used before. The bytes of a block that a loan or a view holds stay as they are
meanwhile: a fresh block is placed elsewhere, and no other block is written to.
-/

import MemoryLending.Proofs.Footprint

namespace MemoryLending

/-- The view of a range that the book says there is. -/
def Lender.seen (lender : Lender) (address size : Nat) : Option View :=
  (lender.loans.find? address size).map fun found => View.ofLoan found.1 found.2 size

theorem Desk.openView_eq (desk : Desk) (address size : Nat) :
    desk.openView address size =
      (desk.lender.seen address size,
        desk.withViews ((desk.lender.seen address size).toList ++ desk.lender.views)) := by
  unfold openView Lender.seen
  cases desk.lender.loans.find? address size <;> rfl

namespace Trade

/-! ### Blocks that are held by loans and views -/

/-- Only native writes change what is in a block that a loan or a view holds. -/
theorem byte_pinned {trade : Trade} {turn : Turn} (marked : trade.Marked)
    (idle : turn.deed.works = false) (other : turn.deed.isSharing = false)
    (clear : trade.Clear turn) {block : Block} (pinned : trade.Stores .pinned block)
    {address : Nat} (inside : address ∈ block.range) :
    (trade.take turn).memory.byte address = trade.memory.byte address := by
  cases impact marked turn with
  | still idle arena thins => exact congrArg (fun arena => arena.memory.byte address) arena
  | placed idle other arena replicas =>
    have placed := congrArg (fun arena => arena.memory.byte address) arena
    refine placed.trans ((Arena.byte_place _ _ _).trans (if_neg fun within => ?_))
    have apart := clear (congrArg Arena.announced arena) block ⟨.pinned, pinned⟩
    exact Set.disjoint_left.mp apart inside within
  | made replica arena asks =>
    obtain ⟨deed, place⟩ := turn
    cases deed with
    | share | takeLease | reach => cases other
    | _ => cases asks
  | worked memory works => exact absurd works (Bool.eq_false_iff.mp idle)

/-- A loan that comes about. -/
structure Granted (trade after : Trade) (reply : Reply) (size : Nat) (block : Block) : Prop where
  room : trade.Room size block
  reply : reply = .loan block.address trade.desk.lender.nextToken
  loans : after.loans.Perm (⟨trade.desk.lender.nextToken, block, size⟩ :: trade.loans)
  views : after.views = trade.views
  token : after.desk.lender.nextToken = trade.desk.lender.nextToken.next

theorem views_lend (trade : Trade) (size place : Nat) :
    (trade.take ⟨.lend size, place⟩).views = trade.views := by
  have drawn : ((trade.ready place).desk.blockFor size).2.lender.views = trade.views := by
    unfold Desk.blockFor
    split
    · rfl
    · rw [Desk.lender_procure]
      rfl
  have outcome := (trade.ready place).desk.lending size
  rw [take_lend_eq]
  show ((trade.ready place).desk.lend size).2.lender.views = _
  generalize (trade.ready place).desk.lend size = result at outcome
  cases outcome with
  | failed fault after found =>
    rw [found] at drawn
    exact drawn
  | refused fault block after aside found =>
    rw [found] at drawn
    exact drawn
  | granted block after loans aside found =>
    rw [found] at drawn
    exact drawn

theorem Roomy.granted {trade : Trade} (roomy : trade.Roomy) {size place : Nat}
    (short : size ≤ Word.longestBlock) (spares : trade.Spares ⟨.lend size, place⟩) :
    ∃ block, Granted trade (trade.take ⟨.lend size, place⟩)
      (trade.answer ⟨.lend size, place⟩) size block := by
  obtain ⟨block, room, accepted, answer⟩ :=
    Trade.granted roomy.custody roomy.spaced short spares
  refine ⟨block, room, answer, LoanBook.perm_of_enter accepted, trade.views_lend size place, ?_⟩
  have lent := (trade.ready place).desk.lent size
  have answered : Reply.ofAnswer (fun grant => .loan grant.1 grant.2)
      ((trade.ready place).desk.lend size).1 = _ := answer
  show ((trade.ready place).desk.lend size).2.lender.nextToken = _
  generalize (trade.ready place).desk.lend size = result at lent answered
  cases lent with
  | refused => cases answered
  | granted block after long accepted policy token => exact token

/-- A loan that is given back is struck from the book, and nothing else happens that a program
sees. -/
theorem taken_back {trade : Trade} (ordered : trade.desk.lender.loans.Ordered) {loan : Loan}
    (member : loan ∈ trade.loans) (place : Nat) :
    let turn : Turn := ⟨.reclaim loan.base loan.token, place⟩
    trade.answer turn = .done ∧ (loan :: (trade.take turn).loans).Perm trade.loans ∧
      (trade.take turn).views = trade.views ∧
        (trade.take turn).desk.lender.nextToken = trade.desk.lender.nextToken := by
  have found : (trade.ready place).desk.lender.loans.at? loan.base = some loan :=
    (LoanBook.at?_eq_some_iff ordered).mpr ⟨member, rfl⟩
  obtain ⟨aside, reclaimed⟩ := Desk.reclaim_of_match found rfl
  intro turn
  have desk : (trade.take turn).desk =
      ((trade.ready place).desk.reclaim loan.base loan.token).2 := rfl
  have answer : trade.answer turn = Reply.ofAnswer (fun _ => .done)
      (((trade.ready place).desk.reclaim loan.base loan.token).1.mapError Fault.refused) := rfl
  unfold Trade.loans Trade.views
  rw [desk, answer, reclaimed]
  exact ⟨rfl, LoanBook.perm_strike found, rfl, rfl⟩

/-- A view that is asked for. -/
theorem looked (trade : Trade) (address size place : Nat) :
    let turn : Turn := ⟨.openView address size, place⟩
    let seen := trade.desk.lender.seen address size
    trade.answer turn = .view seen ∧ (trade.take turn).loans = trade.loans ∧
      (trade.take turn).views = seen.toList ++ trade.views ∧
        (trade.take turn).desk.lender.nextToken = trade.desk.lender.nextToken := by
  have opened := (trade.ready place).desk.openView_eq address size
  intro turn seen
  have desk : (trade.take turn).desk = ((trade.ready place).desk.openView address size).2 := rfl
  have answer : trade.answer turn = .view ((trade.ready place).desk.openView address size).1 := rfl
  unfold Trade.loans Trade.views
  rw [desk, answer, opened]
  exact ⟨rfl, rfl, rfl, rfl⟩

/-- A view that is closed. -/
theorem closed {trade : Trade} {view : View} (opened : view ∈ trade.views) (place : Nat) :
    (trade.take ⟨.closeView view, place⟩).loans = trade.loans ∧
      (trade.take ⟨.closeView view, place⟩).views = trade.views.erase view ∧
        (trade.take ⟨.closeView view, place⟩).desk.lender.nextToken =
          trade.desk.lender.nextToken := by
  have opened' : view ∈ (trade.ready place).desk.lender.views := opened
  obtain ⟨aside, closed⟩ := Desk.closeView_of_mem opened'
  have desk : (trade.take ⟨.closeView view, place⟩).desk =
      (trade.ready place).desk.closeView view := rfl
  unfold Trade.loans Trade.views
  rw [desk, closed]
  exact ⟨rfl, rfl, rfl⟩

end Trade

end MemoryLending
