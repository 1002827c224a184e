/-
This file says what comes of summing up a window of a frame. A capture that has been released is
refused at once, and a window that does not lie in the frame is a complaint; then nothing has
happened. Any other window is reached and let go of again. A window with bytes lies in the loan of
its frame and is read in place; an empty one at the end of the frame may be read through a replica,
which needs no block. So no sum ends the process, and each leaves the desks in order.
-/

import MemoryLending.Proofs.Refusals
import MemoryLending.Soak.Capture

namespace MemoryLending

namespace Desk

/-! ### Work that does not see what the heap has announced -/

theorem openView_announce (desk : Desk) (places : List Nat) (address size : Nat) :
    (desk.announce places).openView address size =
      ((desk.openView address size).1, (desk.openView address size).2.announce places) := by
  unfold openView announce
  dsimp only
  cases desk.lender.loans.find? address size <;> rfl

theorem closeView_announce (desk : Desk) (places : List Nat) (view : View) :
    (desk.announce places).closeView view = (desk.closeView view).announce places := by
  have still : (desk.closeView view).arena = desk.arena :=
    congrArg Prod.fst (overlooks_ground.closeView desk view)
  unfold announce
  rw [still]
  unfold closeView
  dsimp only
  split
  · exact (desk.withViews (desk.lender.views.erase view)).unpin_arena _ view.block
  · rfl

theorem fillReplica_announce (desk : Desk) (places : List Nat) (replica : Replica) :
    (desk.announce places).fillReplica replica = (desk.fillReplica replica).announce places := by
  unfold fillReplica
  split
  · rename_i filled
    rw [if_pos (show desk.lender.replicas.isFilled replica.id = true from filled)]
  · rename_i unfilled
    rw [if_neg (show ¬desk.lender.replicas.isFilled replica.id = true from unfilled)]
    rfl

/-- A replica of no bytes needs no block. -/
theorem reference_announce (desk : Desk) (places : List Nat) (address : Nat) :
    (desk.announce places).reference address 0 =
      ((desk.reference address 0).1, (desk.reference address 0).2.announce places) := by
  unfold reference
  by_cases null : address = 0
  · rw [if_pos null, if_pos null]
  rw [if_neg null, if_neg null]
  rw [show (desk.announce places).lender = desk.lender from rfl]
  cases desk.lender.replicas.entry? address with
  | some entry =>
    dsimp only
    by_cases same : entry.replica.size = 0
    · rw [if_pos same, if_pos same]
      exact Prod.ext rfl (fillReplica_announce (desk.withReplicas _) places entry.replica)
    · rw [if_neg same, if_neg same]
  | none =>
    let replica : Replica := ⟨desk.arena.nextIdentity, address, 0, Block.empty⟩
    exact Prod.ext rfl (fillReplica_announce ((desk.issue.withReplicas
      (desk.lender.replicas.add replica)).log (.replicaCreated address 0)) places replica)

theorem reach_announce (desk : Desk) (places : List Nat) (address : Nat) :
    (desk.announce places).reach address 0 =
      ((desk.reach address 0).1, (desk.reach address 0).2.announce places) := by
  have opened := desk.openView_announce places address 0
  unfold reach
  by_cases null : address = 0
  · rw [if_pos null, if_pos null]
  rw [if_neg null, if_neg null, opened]
  rcases desk.openView address 0 with ⟨_ | view, after⟩
  · have referenced := after.reference_announce places address
    dsimp only
    unfold takeLease
    rw [referenced]
    rcases after.reference address 0 with ⟨fault | replica, last⟩ <;> rfl
  · rfl

end Desk

namespace Office

theorem upholds_openView (office : Office) (index address size : Nat) :
    office.Upholds (office.withDesk index ((office.desk index).openView address size).2) := by
  have moved := (office.desk index).openView_announce [0] address size
  have still : ((office.desk index).openView address size).2.arena = office.arena :=
    congrArg Prod.fst (Desk.overlooks_ground.openView (office.desk index) address size)
  exact @upholds_idle office index (.openView address size) _ rfl
    (Nat.le_of_eq (congrArg Arena.identities still).symm)
    fun rented record => ⟨congrArg Prod.snd moved, rfl⟩

theorem upholds_letGo (office : Office) (index : Nat) (reach : Reach) :
    office.Upholds (office.withDesk index ((office.desk index).letGo reach)) := by
  cases reach with
  | copied replica => exact office.upholds_endLease index replica
  | inPlace view =>
    have moved := (office.desk index).closeView_announce [0] view
    have still : ((office.desk index).closeView view).arena = office.arena :=
      congrArg Prod.fst (Desk.overlooks_ground.closeView (office.desk index) view)
    exact @upholds_idle office index (.closeView view) _ rfl
      (Nat.le_of_eq (congrArg Arena.identities still).symm) fun rented record => ⟨moved, rfl⟩

/-- To reach an empty range needs no block. -/
theorem upholds_reach_empty (office : Office) (index address : Nat) :
    office.Upholds (office.withDesk index ((office.desk index).reach address 0).2) := by
  have moved := (office.desk index).reach_announce [0] address
  have issued := (office.tradeOf index [] []).issued_le_take ⟨.reach address 0, 0⟩
  refine @upholds_idle office index (.reach address 0) _ rfl ?_
    fun rented record => ⟨congrArg Prod.snd moved, rfl⟩
  have same : ((office.tradeOf index [] []).take ⟨.reach address 0, 0⟩).desk =
      ((office.desk index).reach address 0).2.announce [0] := congrArg Prod.snd moved
  unfold Trade.issued at issued
  rw [same] at issued
  exact issued

/-- A capture that has not been released, its lender and its frame. -/
def Holding (office : Office) (id : WrapperId) (lender : Nat) (frame : Frame) : Prop :=
  ∃ wrapper sensor, office.wrappers[id]? = some wrapper ∧ wrapper.flag.released = false ∧
    wrapper.lender = lender ∧ wrapper.duty = .capture sensor (some frame)

end Office

namespace Action

/-- A capture shows its frame, or it refuses to and the process goes on. -/
theorem heldFrame_cases (id : WrapperId) (office : Office) :
    (∃ fault, fault ≠ .aborted ∧ heldFrame id office = (.error fault, office)) ∨
      ∃ lender frame, office.Holding id lender frame ∧
        heldFrame id office = (.ok (lender, frame), office) := by
  unfold heldFrame
  rw [run_get_bind]
  cases found : office.wrappers[id]? with
  | none => exact Or.inl ⟨.complained .frameReleased, nofun, rfl⟩
  | some wrapper =>
    obtain ⟨name, lender, duty, ⟨released⟩, holders⟩ := wrapper
    cases released with
    | true => exact Or.inl ⟨.refused .alreadyReleased, nofun, rfl⟩
    | false =>
      cases duty with
      | capture sensor frame =>
        cases frame with
        | none => exact Or.inl ⟨.complained .frameReleased, nofun, rfl⟩
        | some frame => exact Or.inr ⟨lender, frame, ⟨_, sensor, found, rfl, rfl, rfl⟩, rfl⟩
      | _ => exact Or.inl ⟨.complained .frameReleased, nofun, rfl⟩

/-- A capture that has been released shows nothing, whatever is in memory. -/
theorem windowSum_of_released {office : Office} {id : WrapperId} {wrapper : Wrapper}
    (found : office.wrappers[id]? = some wrapper) (released : wrapper.flag.released = true)
    (offset length : Nat) :
    windowSum id offset length office = (.error (.refused .alreadyReleased), office) := by
  have refused : heldFrame id office = (.error (.refused .alreadyReleased), office) := by
    unfold heldFrame
    rw [run_get_bind, found]
    dsimp only
    unfold ReleaseFlag.requireHeld
    rw [if_pos released]
    rfl
  exact run_bind_of_error refused

/-- What summing up a window can come to. -/
inductive Summing (office : Office) (id : WrapperId) (offset length : Nat) :
    Except Fault Nat × Office → Prop where
  | failed (fault : Fault) (alive : fault ≠ .aborted) :
      Summing office id offset length (.error fault, office)
  | beyond (lender : Nat) (frame : Frame) (holding : office.Holding id lender frame)
      (inside : offset + length ≤ frame.length) (long : Word.longestBlock < length) (desk : Desk)
      (reached : (office.desk lender).reach (frame.address + offset) length =
        (.error (.panicked .capacityOverflow), desk)) :
      Summing office id offset length
        (.error (.panicked .capacityOverflow), office.withDesk lender desk)
  | shown (lender : Nat) (frame : Frame) (holding : office.Holding id lender frame)
      (inside : offset + length ≤ frame.length) (present : frame.address + offset ≠ 0)
      (reach : Reach) (desk : Desk) (total : Nat) (noted : Office)
      (reached : (office.desk lender).reach (frame.address + offset) length = (.ok reach, desk))
      (same : noted = office.withDesk lender desk ∨
        noted = (log (.frameNotOwned frame.address) (office.withDesk lender desk)).2) :
      Summing office id offset length
        (.ok total, noted.withDesk lender ((noted.desk lender).letGo reach))

theorem sum_cases (left right : Nat) (office : Office) :
    sum left right office = (.error (.panicked .addOverflow), office) ∨
      sum left right office = (.ok (left + right), office) := by
  unfold sum
  cases added : Word.add? left right with
  | none => exact Or.inl rfl
  | some total =>
    obtain ⟨rfl, -⟩ := Word.add?_eq_some_iff.mp added
    exact Or.inr rfl

theorem summing (office : Office) (id : WrapperId) (offset length : Nat) :
    Summing office id offset length (windowSum id offset length office) := by
  unfold windowSum
  rcases heldFrame_cases id office with ⟨fault, alive, failed⟩ | ⟨lender, frame, holding, held⟩
  · rw [run_bind_of_error failed]
    exact .failed fault alive
  rw [run_bind_of_ok held]
  dsimp only
  rcases sum_cases offset length office with failed | summed
  · rw [run_bind_of_error failed]
    exact .failed _ nofun
  rw [run_bind_of_ok summed]
  by_cases outside : frame.length < offset + length
  · rw [if_pos outside]
    exact .failed _ nofun
  rw [if_neg outside]
  have inside : offset + length ≤ frame.length := Nat.le_of_not_lt outside
  rcases sum_cases frame.address offset office with failed | summed
  · rw [run_bind_of_error failed]
    exact .failed _ nofun
  rw [run_bind_of_ok summed]
  unfold reading
  rcases reached : (office.desk lender).reach (frame.address + offset) length with
    ⟨fault | reach, desk⟩
  · have failed : atDesk lender (·.reach (frame.address + offset) length) office =
        (.error fault, office.withDesk lender desk) := by
      unfold atDesk
      dsimp only
      rw [reached]
    rw [run_bind_of_error failed]
    cases Desk.foiled_reach reached with
    | refused violation =>
      rw [office.withDesk_desk]
      exact .failed _ nofun
    | missed _ long => exact .beyond lender frame holding inside long desk reached
  · have came : atDesk lender (·.reach (frame.address + offset) length) office =
        (.ok reach, office.withDesk lender desk) := by
      unfold atDesk
      dsimp only
      rw [reached]
    have present : frame.address + offset ≠ 0 := by
      intro null
      unfold Desk.reach at reached
      rw [if_pos null] at reached
      cases reached
    have read : readDesk lender (·.reachBytes reach) (office.withDesk lender desk) =
        (.ok (((office.withDesk lender desk).desk lender).reachBytes reach),
          office.withDesk lender desk) := rfl
    rw [run_bind_of_ok came, run_bind_of_ok read]
    dsimp only
    cases owned : reach.isInPlace with
    | true => exact .shown lender frame holding inside present reach desk _ _ reached (Or.inl rfl)
    | false => exact .shown lender frame holding inside present reach desk _ _ reached (Or.inr rfl)

end Action

/-! ### What a sum leaves -/

/-- A relation that reaching for a range stays within. -/
structure Reads (Related : Office → Office → Prop) : Prop extends Chained Related where
  noted : ∀ office address, Related office (Action.log (.frameNotOwned address) office).2
  reach : ∀ office lender address size,
    Related office (office.withDesk lender ((office.desk lender).reach address size).2)
  letGo : ∀ office lender reach,
    Related office (office.withDesk lender ((office.desk lender).letGo reach))

theorem Reads.windowSum {Related : Office → Office → Prop} (reads : Reads Related)
    (id : WrapperId) (offset length : Nat) :
    Action.Within Related (Action.windowSum id offset length) := by
  intro office
  have reached : ∀ {lender address size answer desk},
      (office.desk lender).reach address size = (answer, desk) →
        Related office (office.withDesk lender desk) := by
    intro lender address size answer desk came
    have here := reads.reach office lender address size
    rw [came] at here
    exact here
  have outcome := Action.summing office id offset length
  generalize Action.windowSum id offset length office = result at outcome
  cases outcome with
  | failed fault alive => exact reads.refl office
  | beyond lender frame holding inside long desk came => exact reached came
  | shown lender frame holding inside present reach desk total noted came same =>
    refine reads.trans (reads.trans (reached came) ?_) (reads.letGo noted lender reach)
    rcases same with rfl | rfl
    · exact reads.refl _
    · exact reads.noted _ frame.address

namespace Office

/-- A lender has lent a frame. -/
def Lends (office : Office) (lender : Nat) (frame : Frame) : Prop :=
  ∃ loan ∈ (office.lender lender).loans.toList,
    loan.base = frame.address ∧ loan.token = frame.context ∧ loan.length = frame.length

section Sum

variable {office : Office} {rented : Nat → List Block} (orderly : office.Orderly rented)

include orderly

/-- No loan is longer than a block can be. -/
theorem Orderly.short {lender : Nat} {loan : Loan}
    (member : loan ∈ (office.lender lender).loans.toList) : loan.length ≤ Word.longestBlock := by
  have inRange := @inRange_of_live office lender loan.base loan.token ⟨loan, member, rfl, rfl⟩
  obtain ⟨record, housed⟩ := orderly lender inRange
  exact Nat.le_trans (housed.tended.accounted.within loan member)
    (housed.short loan.block ⟨.pinned, Or.inl ⟨loan, member, rfl⟩⟩)

/-- A window of a frame on loan is reached without a block. -/
theorem Orderly.reach {lender : Nat} {frame : Frame} (lends : office.Lends lender frame)
    {offset length : Nat} (inside : offset + length ≤ frame.length)
    (present : frame.address + offset ≠ 0) :
    (office.withDesk lender
      ((office.desk lender).reach (frame.address + offset) length).2).Orderly rented := by
  by_cases empty : length = 0
  · rw [empty]
    exact (office.upholds_reach_empty lender _).2 rented orderly
  obtain ⟨loan, member, base, -, long⟩ := lends
  have sound := orderly.sound
    (@inRange_of_live office lender loan.base loan.token ⟨loan, member, rfl, rfl⟩)
  have found : (office.lender lender).loans.find? (frame.address + offset) length =
      some (loan, offset) :=
    (LoanBook.find?_eq_some_iff sound).mpr ⟨member, by omega, by omega, by omega⟩
  have opened := (office.upholds_openView lender (frame.address + offset) length).2 rented orderly
  rw [Desk.reach_of_found (office.desk lender) present found]
  unfold Desk.openView at opened
  rw [show (office.desk lender).lender.loans.find? (frame.address + offset) length =
    some (loan, offset) from found] at opened
  exact opened

variable {id : WrapperId}
  (lent : ∀ lender frame, office.Holding id lender frame → office.Lends lender frame)
  (offset length : Nat)

include lent

theorem Orderly.windowSum : (Action.windowSum id offset length office).2.Orderly rented := by
  have outcome := Action.summing office id offset length
  generalize Action.windowSum id offset length office = result at outcome
  cases outcome with
  | failed fault alive => exact orderly
  | beyond lender frame holding inside long =>
    obtain ⟨loan, member, -, -, same⟩ := lent lender frame holding
    have short := orderly.short member
    omega
  | shown lender frame holding inside present reach desk total noted reached same =>
    have orderly' := orderly.reach (lent lender frame holding) inside present
    rw [reached] at orderly'
    refine (upholds_letGo noted lender reach).2 rented ?_
    rcases same with rfl | rfl
    · exact orderly'
    · exact (routine_upholds.log _ _).2 rented orderly'

end Sum

/-- No sum ends the process. -/
theorem alive_windowSum (office : Office) (id : WrapperId) (offset length : Nat) :
    (Action.windowSum id offset length office).1 ≠ .error .aborted := by
  have outcome := Action.summing office id offset length
  generalize Action.windowSum id offset length office = result at outcome
  cases outcome with
  | failed fault alive => exact fun aborted => alive (Except.error.inj aborted)
  | beyond => exact nofun
  | shown => exact nofun

end Office

end MemoryLending
