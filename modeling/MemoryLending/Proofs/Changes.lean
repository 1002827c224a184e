/-
This file follows every task of a process. Besides the routine changes, an office changes where
native code writes into memory, where a loan is asked for, where somebody takes the place of the
serving lender or gives it up, and where a caller has a turn at a desk. A relation that all these
stay within is one that every task stays within, so a rule that concerns neither the places of
blocks nor who serves has to be checked once for each kind of change and holds after every run.
One such rule comes here: whatever a reserve keeps, and whatever callers have rented from it, can
come back to it.
-/

import MemoryLending.Proofs.Process

namespace MemoryLending

/-- A relation that all changes of an office stay within but for the turns of callers. -/
structure Usual (Related : Office → Office → Prop) : Prop extends Routine Related where
  arena : ∀ office arena, Related office { office with arena }
  lend : ∀ office lender size,
    Related office (office.withDesk lender ((office.desk lender).lend size).2)
  place : ∀ office served, Related office { office with served }
  exit : ∀ office sweepsAtExit, Related office { office with sweepsAtExit }
  serving : ∀ office lender,
    Related office
      { office with
        lenders := office.lenders.modify lender fun lender => { lender with serving := true } }

namespace Usual

open MemoryLending.Action

variable {Related : Office → Office → Prop} (usual : Usual Related)

include usual

theorem asks : Asks Related := { usual with }

theorem claimPlace (lender : Nat) : Within Related (claimPlace lender) := by
  unfold Action.claimPlace
  refine usual.bind usual.get fun office => ?_
  split
  · exact usual.thenPure fun office => usual.place office _
  · split <;> exact usual.pure _

theorem takePlace (lender : Nat) (party : Party) : Within Related (takePlace lender party) := by
  unfold Action.takePlace
  refine usual.bind (usual.claimPlace lender) fun claimed => ?_
  split
  · exact usual.pure _
  refine usual.bind (usual.asks.offer party) fun answer => ?_
  split
  · split
    · exact usual.thenPure fun office => usual.place office _
    · exact usual.pure _
  · exact usual.thenPure fun office => usual.exit office true

theorem setServing (lender : Nat) : Within Related (setServing lender) :=
  usual.bind (fun office => usual.serving office lender) fun _ => usual.log _

theorem engage (lender : Nat) (party : Party) (wrapper : WrapperId) :
    Within Related (engage lender party wrapper) := by
  unfold Action.engage
  refine usual.bind usual.get fun office => ?_
  split
  · exact usual.thenPure (usual.enroll lender wrapper)
  refine usual.bind (usual.takePlace lender party) fun answer => ?_
  split
  · exact usual.pure _
  · exact usual.bind (usual.setServing lender) fun _ =>
      usual.thenPure (usual.enroll lender wrapper)

theorem openSession (lender sensor : Nat) : Within Related (openSession lender sensor) := by
  unfold Action.openSession
  refine usual.bind (usual.makeWrapper _ _ _) fun session =>
    usual.bind (usual.engage lender _ session) fun answer => ?_
  obtain ⟨grants, violation | ⟨⟩⟩ := answer
  · exact usual.bind (usual.letGo session) fun _ => usual.throw _
  · exact usual.pure _

theorem conduct (errand : Errand) : Within Related errand.conduct := by
  cases errand with
  | makeSensor frameLength count =>
    exact usual.thenPure (usual.discard (usual.asks.makeSensor frameLength count))
  | engage lender party wrapper =>
    exact usual.bind (usual.engage lender party wrapper) fun _ => usual.pure _
  | openSession lender sensor =>
    exact usual.thenPure (usual.discard (usual.openSession lender sensor))
  | allocate size hasContext =>
    exact usual.thenPure (usual.asks.answerAllocate size hasContext)
  | grab sensor sequence => exact usual.thenPure (usual.asks.grab sensor sequence)
  | _ => exact usual.toRoutine.conduct rfl

theorem doErrand (process : Process) (errand : Errand) (places : List Nat) :
    Related process.office (process.doErrand errand places).office := by
  have ready : Related process.office (process.ready places) := usual.arena _ _
  have done := usual.trans ready (usual.conduct errand (process.ready places))
  unfold Process.doErrand
  split
  · generalize errand.conduct (process.ready places) = result at done ⊢
    obtain ⟨fault | tokens, after⟩ := result <;> exact done
  · exact usual.refl _

end Usual

/-! ### Blocks that can come back -/

/-- Every block of a reserve can come back to it. -/
def Lender.Stocked (lender : Lender) : Prop :=
  ∀ block ∈ lender.reserve.kept, block.pooled = true

namespace Trade

/-- Every block that the reserve keeps or that callers have rented can come back. -/
structure Stocked (trade : Trade) : Prop where
  kept : trade.desk.lender.Stocked
  rented : ∀ block ∈ trade.rented, block.pooled = true

variable {turn : Turn} {drawn : Option Block} {trade after mid : Trade}
  {asked traffic : List Traffic}

theorem Stocked.amend (stocked : trade.Stocked)
    (restored : ∀ block ∈ Traffic.restored traffic, block.pooled = true) (aside : Aside) :
    (trade.amend traffic aside).Stocked where
  kept block member := by
    have found := (Reserve.kept_passAll_sublist trade.desk.lender.reserve traffic).subset member
    exact (List.mem_append.mp found).elim (stocked.kept block) (restored block)
  rented := stocked.rented

theorem Stocked.draw (stocked : trade.Stocked) (draw : Draw turn trade asked drawn mid) :
    mid.Stocked := by
  cases draw with
  | idle => exact stocked
  | empty => exact ⟨stocked.kept, List.forall_mem_cons.mpr ⟨rfl, stocked.rented⟩⟩
  | miss length => exact stocked
  | kept length block rest taken =>
    have pooled := stocked.kept block (Reserve.mem_of_takeFirst taken)
    exact ⟨stocked.kept, List.forall_mem_cons.mpr ⟨pooled, stocked.rented⟩⟩
  | fresh length asked positive short offered requests =>
    exact ⟨stocked.kept, List.forall_mem_cons.mpr ⟨rfl, stocked.rented⟩⟩

theorem Stocked.shift (stocked : trade.Stocked) (shift : Shift turn drawn trade traffic after)
    (aside : Aside) : (after.amend traffic aside).Stocked := by
  rcases shift.less_or_entry with less | ⟨rfl, entry⟩
  · have still : after.Stocked := by
      refine ⟨fun block member => stocked.kept block ?_, fun block member =>
        stocked.rented block (less.rented.subset member)⟩
      rw [less.reserve] at member
      exact member
    refine still.amend (fun block member => ?_) aside
    rcases less.restored block member with rented | ⟨pooled, -⟩
    · exact stocked.rented block rented
    · exact pooled
  · have still : after.Stocked := by
      cases entry with
      | loan =>
        exact ⟨stocked.kept, fun block member =>
          stocked.rented block (List.mem_of_mem_erase member)⟩
      | byte => exact ⟨stocked.kept, stocked.rented⟩
      | replica =>
        exact ⟨stocked.kept, fun block member =>
          stocked.rented block (List.mem_of_mem_erase member)⟩
    exact still.amend (fun _ none => by cases none) aside

/-- A turn stocks the reserve with nothing that could not come back. -/
theorem Stocked.take (stocked : trade.Stocked) (turn : Turn) : (trade.take turn).Stocked := by
  have ready : (trade.ready turn.place).Stocked := ⟨stocked.kept, stocked.rented⟩
  have moves := trade.moves_take turn
  suffices performed : ((trade.ready turn.place).perform turn.deed).2.Stocked from
    ⟨performed.kept, performed.rented⟩
  generalize ((trade.ready turn.place).perform turn.deed).2 = later at moves ⊢
  generalize trade.asked turn ++ trade.back turn = traffic at moves
  cases moves with
  | intro aside draw shifts =>
    have mid := (ready.draw draw).amend
      (fun _ member => by rw [draw.restored_eq_nil] at member; cases member) aside
    clear draw
    generalize Trade.amend _ _ aside = start at mid shifts
    induction shifts with
    | done => exact mid
    | more aside first others inductionHypothesis =>
      exact inductionHypothesis (mid.shift first aside)

end Trade

namespace Office

/-- Reserves that could take all their blocks back still can. -/
def Restocks (before after : Office) : Prop :=
  ∀ index, (before.lender index).Stocked → (after.lender index).Stocked

/-- A turn at a desk does to the reserve there what the work at the desk does. -/
theorem restocks_withDesk (office : Office) (index : Nat) {desk : Desk} (turn : Turn)
    (worked : ((office.tradeOf index [] []).take turn).desk.lender = desk.lender) :
    office.Restocks (office.withDesk index desk) := by
  intro other stocked
  rw [office.lender_withDesk]
  split
  · rename_i here
    obtain rfl := here.1
    have before : (office.tradeOf index [] []).Stocked := ⟨stocked, nofun⟩
    exact worked ▸ (before.take turn).kept
  · exact stocked

theorem restocks_modify (office : Office) (index : Nat) {change : Lender → Lender}
    (same : ∀ lender, (change lender).reserve = lender.reserve) :
    office.Restocks { office with lenders := office.lenders.modify index change } := by
  intro other stocked
  by_cases inRange : other < office.lenders.size
  · rw [office.lender_modify index other change inRange]
    split
    · unfold Lender.Stocked
      rw [same]
      exact stocked
    · exact stocked
  · have beyond := Nat.le_of_not_lt inRange
    rw [lender_of_beyond (Nat.le_trans (Nat.le_of_eq Array.size_modify) beyond)]
    exact fun _ none => by cases none

theorem usual_restocks : Usual Restocks where
  refl _ _ := id
  trans first second index stocked := second index (first index stocked)
  journal _ _ _ := id
  wrappers _ _ _ := id
  sensors _ _ _ := id
  hosts _ _ _ := id
  arena _ _ _ := id
  place _ _ _ := id
  exit _ _ _ := id
  roster office lender _ := office.restocks_modify lender fun _ => rfl
  serving office lender := office.restocks_modify lender fun _ => rfl
  reclaim office index address token := by
    have moved := (office.desk index).reclaim_arena (office.arena.announce [0]) address token
    exact office.restocks_withDesk index ⟨.reclaim address token, 0⟩
      (congrArg (·.2.lender) moved)
  endLease office index replica := by
    have moved := (office.desk index).endLease_arena (office.arena.announce [0]) replica
    exact office.restocks_withDesk index ⟨.endLease replica, 0⟩ (congrArg (·.lender) moved)
  lend office index size := by
    have level : (office.arena.announce [office.arena.nextAddress]).Level office.arena :=
      ⟨rfl, rfl⟩
    obtain ⟨placed, -, lent⟩ := (office.desk index).lend_level level rfl size
    exact office.restocks_withDesk index ⟨.lend size, office.arena.nextAddress⟩
      (congrArg (·.2.lender) lent)

end Office

namespace Process

variable {process : Process} {lender : Nat}

theorem stocked_of (kept : (process.office.lender lender).Stocked)
    (rented : ∀ block ∈ process.rented lender, block.pooled = true) :
    (process.trade lender).Stocked := ⟨kept, rented⟩

theorem stocked_takeTurn (stocked : (process.trade lender).Stocked) (index : Nat) (turn : Turn) :
    ((process.takeTurn index turn).trade lender).Stocked := by
  unfold takeTurn
  by_cases inRange : index < process.office.lenders.size
  · rw [if_pos inRange]
    have here := process.office.lender_withDesk index lender
      ((process.trade index).take turn).desk
    by_cases same : index = lender
    · subst same
      rw [if_pos ⟨rfl, inRange⟩] at here
      have taken := stocked.take turn
      refine stocked_of ?_ ?_ <;> dsimp only
      · exact here ▸ taken.kept
      · rw [Function.update_self]
        exact taken.rented
    · rw [if_neg fun both => same both.1] at here
      refine stocked_of ?_ ?_ <;> dsimp only
      · exact here ▸ stocked.kept
      · rw [Function.update_of_ne (Ne.symm same)]
        exact stocked.rented
  · rw [if_neg inRange]
    exact stocked

theorem stocked_doErrand (stocked : (process.trade lender).Stocked) (errand : Errand)
    (places : List Nat) : ((process.doErrand errand places).trade lender).Stocked := by
  have rented : (process.doErrand errand places).rented = process.rented := by
    unfold doErrand
    split
    · split <;> rfl
    · rfl
  refine stocked_of ?_ ?_
  · exact Office.usual_restocks.doErrand process errand places lender stocked.kept
  · rw [rented]
    exact stocked.rented

theorem stocked_take (stocked : (process.trade lender).Stocked) (task : Task) :
    ((process.take task).trade lender).Stocked := by
  unfold take
  split
  · exact stocked
  · cases task with
    | turn index turn => exact stocked_takeTurn stocked index turn
    | errand errand places => exact stocked_doErrand stocked errand places

/-- In every process, whatever a reserve keeps and whatever callers have rented can come back. -/
theorem stocked_run (arena : Arena) (policies : List Policy) (tasks : List Task) (lender : Nat) :
    (((start arena policies).run tasks).trade lender).Stocked := by
  have begun : ((start arena policies).trade lender).Stocked := by
    obtain ⟨policy, same⟩ := lender_start arena policies lender
    refine ⟨?_, nofun⟩
    show ((start arena policies).office.lender lender).Stocked
    rw [same]
    exact nofun
  unfold Process.run
  generalize start arena policies = process at begun ⊢
  induction tasks generalizing process with
  | nil => exact begun
  | cons task rest inductionHypothesis => exact inductionHypothesis _ (stocked_take begun task)

end Process

end MemoryLending
