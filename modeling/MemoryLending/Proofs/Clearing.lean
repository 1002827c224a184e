/-
This file ends a soak run. The captures that are left look after themselves and have different
frames, so a sweep tells each of them to retire once, and the session besides, and finds no entry of
the roster dead. Once every frame is back, whoever is let go of and whatever is swept changes
nothing about that: no loan is out, nobody holds a replica, and the last sweep at the end of the
process succeeds.
-/

import MemoryLending.Proofs.Shutdown
import MemoryLending.Proofs.Soaking

namespace MemoryLending

namespace Office

variable {office : Office} {captures : List (WrapperId × Frame)} {rented : Nat → List Block}

/-! ### Captures that can be swept together -/

/-- Every wrapper of a studio looks after itself: what a capture gives back is on loan. -/
theorem Captured.proper (captured : office.Captured captures) (id : WrapperId) :
    office.Proper id := by
  intro wrapper found held
  obtain ⟨name, lender, duty, ⟨released⟩, holders⟩ := wrapper
  obtain rfl : released = false := held
  have found : office.wrappers[id]? = some ⟨name, lender, duty, ⟨false⟩, holders⟩ := found
  rcases captured.aside_or_filled found with aside | ⟨frame, member, rfl, rfl⟩
  · cases duty with
    | plain | automatic | session => trivial
    | _ => cases aside
  · obtain ⟨loan, lent, base, token, -⟩ := captured.lends member (released_of_found found)
    exact fun connected => ⟨0, captured.hooked connected, loan, lent, base, token⟩

/-- Whoever owns a loan is a capture that has its frame. -/
theorem Captured.capture_of_owned (captured : office.Captured captures) {id : WrapperId}
    {owned : Nat × Nat × Token} (owns : office.owned id = some owned) :
    ∃ frame, (id, frame) ∈ captures.filter (!office.released ·.1) ∧
      owned = (0, frame.address, frame.context) := by
  have unreleased : ¬office.released id = true := fun released => by
    cases (owned_of_released released).symm.trans owns
  obtain ⟨⟨name, lender, duty, ⟨released⟩, holders⟩, found, held⟩ := held_of_unreleased unreleased
  obtain rfl : released = false := held
  rw [owned_of_found found rfl] at owns
  rcases captured.aside_or_filled found with aside | ⟨frame, member, rfl, rfl⟩
  · cases duty with
    | plain | automatic | session => cases owns
    | _ => cases aside
  · have connected := captured.connected (List.ne_nil_of_mem member)
    have chosen : (!office.released id) = true :=
      congrArg (!·) (Bool.eq_false_of_not_eq_true unreleased)
    unfold due lent at owns
    dsimp only at owns
    rw [if_pos connected, captured.hooked connected] at owns
    exact ⟨frame, List.mem_filter.mpr ⟨member, chosen⟩, (Option.some.inj owns).symm⟩

/-- Different captures have different frames. -/
theorem Captured.apart (captured : office.Captured captures) (orderly : office.Orderly rented)
    (ids : List WrapperId) : office.Apart ids := by
  have inRange : 0 < office.lenders.size := captured.size ▸ Nat.one_pos
  have places : ((captures.filter (!office.released ·.1)).map (·.2.address)).Nodup := by
    have bases := captured.loans.map Debt.base
    rw [List.map_map, List.map_map] at bases
    exact bases.nodup_iff.mp (orderly.sound inRange).ordered.nodup_bases
  intro first _ second _ owns same
  obtain ⟨owned, first_owns⟩ := Option.ne_none_iff_exists'.mp owns
  obtain ⟨frame, member, rfl⟩ := captured.capture_of_owned first_owns
  obtain ⟨frame', member', here⟩ := captured.capture_of_owned (same.symm.trans first_owns)
  exact congrArg Prod.fst
    (List.inj_on_of_nodup_map places member member' (congrArg (·.2.1) here))

/-! ### The sweep -/

/-- A sweep that releases every capture reports whom it has told and which entries were dead. -/
theorem Captured.sweep_report (captured : office.Captured captures)
    (orderly : office.Orderly rented)
    (listed : ∀ capture ∈ captures, office.released capture.1 = false →
      office.Attended capture.1) :
    ∃ after, Action.sweep 0 office = (.ok ⟨(office.told 0).length, office.dead 0⟩, after) ∧
      (∀ id ∈ office.living 0, after.released id = true) ∧
      Discharged captures (captures.map Prod.fst) office after := by
  have inRange : 0 < office.lenders.size := captured.size ▸ Nat.one_pos
  obtain ⟨report, after, swept, discharged⟩ := captured.sweep orderly listed
  obtain ⟨last, retired⟩ :=
    office.retired orderly (fun id _ => captured.proper id) (captured.apart orderly _)
  obtain ⟨journal, outcome⟩ := sweep_outcome orderly inRange retired
  rw [swept] at outcome
  obtain ⟨settled, rfl⟩ := Prod.mk.inj outcome
  unfold SweepReport.settle at settled
  split at settled
  · cases settled
    exact ⟨_, swept, retired.released, discharged⟩
  · cases settled

section Crew

variable {ids : List WrapperId} (crew : office.Crew ids)

include crew

theorem Crew.living_eq : office.living 0 = ids := by
  unfold living Roster.living
  rw [show (office.lender 0).roster.entries = ids from crew.entries]
  exact List.filter_eq_self.mpr crew.alive

theorem Crew.dead_eq_zero : office.dead 0 = 0 := by
  unfold dead
  rw [show (office.lender 0).roster.entries = ids from crew.entries]
  exact List.countP_eq_zero.mpr fun id member => by rw [crew.alive id member]; exact nofun

/-- Everybody in the crew is told to retire. -/
theorem Crew.length_told (captured : office.Captured captures)
    (orderly : office.Orderly rented) : (office.told 0).length = ids.length := by
  obtain ⟨last, retired⟩ :=
    office.retired orderly (fun id _ => captured.proper id) (captured.apart orderly _)
  refine List.Perm.length_eq ((List.perm_ext_iff_of_nodup retired.once crew.distinct).mpr
    fun id => ?_)
  rw [retired.fresh, crew.living_eq]
  exact and_iff_left_of_imp (crew.unreleased id)

end Crew

/-! ### After the sweep -/

/-- Every frame is back, and nobody holds a replica. -/
structure Cleared (office : Office) (captures : List (WrapperId × Frame))
    (rented : Nat → List Block) (asked : Nat) : Prop where
  orderly : office.Orderly rented
  captured : office.Captured captures
  released : ∀ capture ∈ captures, office.released capture.1 = true
  resting : (office.lender 0).Resting asked
  served : office.served = some 0
  sweeps : office.sweepsAtExit = true

/-- What all routine changes leave alone when a run is over. -/
def Settles (asked : Nat) (before after : Office) : Prop :=
  before.Upholds after ∧ ((before.lender 0).Resting asked → (after.lender 0).Resting asked) ∧
    after.post = before.post

theorem routine_settles (asked : Nat) : Routine (Settles asked) :=
  routine_upholds.and ((routine_resting asked).and routine_post)

namespace Cleared

variable {asked : Nat} (cleared : office.Cleared captures rented asked)

include cleared

/-- No loan is out. -/
theorem count_loans : (office.lender 0).loans.count = 0 := by
  rw [cleared.captured.outstanding]
  exact List.countP_eq_zero.mpr fun capture member => by
    rw [cleared.released capture member]
    exact nofun

/-- Nobody holds a replica. -/
theorem count_replicas : (office.lender 0).replicas.count = 0 := by
  unfold ReplicaTable.count
  rw [cleared.resting.entries]
  rfl

theorem afterwards {after : Office} {ids : List WrapperId} (settles : Settles asked office after)
    (discharged : Discharged captures ids office after) :
    after.Cleared captures rented asked where
  orderly := settles.1.2 rented cleared.orderly
  captured := discharged.captured
  released capture member :=
    (discharged.released capture member).mpr (Or.inl (cleared.released capture member))
  resting := settles.2.1 cleared.resting
  served := (congrArg (·.1) settles.2.2).trans cleared.served
  sweeps := (congrArg (·.2.1) settles.2.2).trans cleared.sweeps

theorem letGo (id : WrapperId) :
    ∃ after, Action.letGo id office = (.ok (), after) ∧ after.Cleared captures rented asked := by
  obtain ⟨after, left, discharged⟩ := cleared.captured.letGo cleared.orderly id
  have settles := (routine_settles asked).letGo id office
  rw [left] at settles
  exact ⟨after, left, cleared.afterwards settles discharged⟩

theorem letGoAll (ids : List WrapperId) :
    ∃ after, Action.letGoAll ids office = (.ok (), after) ∧
      after.Cleared captures rented asked := by
  induction ids generalizing office with
  | nil => exact ⟨office, rfl, cleared⟩
  | cons id later inductionHypothesis =>
    obtain ⟨mid, left, cleared'⟩ := cleared.letGo id
    obtain ⟨after, rest, cleared''⟩ := inductionHypothesis cleared'
    refine ⟨after, ?_, cleared''⟩
    show (Action.letGo id >>= fun _ => Action.letGoAll later) office = _
    rw [Action.run_bind_of_ok left, rest]

/-- The sweep at the end of the process succeeds. -/
theorem exit :
    ∃ after, Action.exit office = (.ok (), after) ∧ after.Cleared captures rented asked := by
  obtain ⟨report, after, swept, discharged⟩ := cleared.captured.sweep cleared.orderly
    fun capture member unreleased => by
      cases unreleased.symm.trans (cleared.released capture member)
  have settles := (routine_settles asked).sweep 0 office
  rw [swept] at settles
  refine ⟨after, ?_, cleared.afterwards settles discharged⟩
  unfold Action.exit
  rw [Action.run_get_bind, cleared.sweeps, cleared.served]
  dsimp only
  rw [Action.run_tryCatch, Action.run_discard, swept]
  rfl

end Cleared

/-- A soak run is swept while the captures that were kept are still held: each of them and the
session are told to retire, and no entry is dead. -/
theorem Soaking.sweep {buffers : List Block} {frameLength asked : Nat} {kept : List WrapperId}
    (soaking : office.Soaking buffers frameLength kept asked) :
    ∃ captures after, Action.sweep 0 office = (.ok ⟨1 + kept.length, 0⟩, after) ∧
      after.Cleared captures (fun _ => Sensor.premises buffers) asked ∧
      ∀ id ∈ 0 :: kept.reverse, after.released id = true := by
  obtain ⟨captures, captured, left⟩ := soaking.captured
  have crew := soaking.crew
  obtain ⟨after, swept, released, discharged⟩ := captured.sweep_report soaking.orderly
    fun capture member unreleased => by
      have here : capture.1 ∈ 0 :: kept.reverse :=
        List.mem_cons_of_mem 0 (List.mem_reverse.mpr (left capture member unreleased))
      have listed : capture.1 ∈ office.entries 0 := crew.entries.symm ▸ here
      exact ⟨crew.alive _ here, listed⟩
  rw [crew.length_told captured soaking.orderly, crew.dead_eq_zero, List.length_cons,
    List.length_reverse, Nat.add_comm] at swept
  rw [crew.living_eq] at released
  have settles := (routine_settles asked).sweep 0 office
  rw [swept] at settles
  refine ⟨captures, after, swept,
    { orderly := settles.1.2 _ soaking.orderly
      captured := discharged.captured
      released := fun capture member => (discharged.released capture member).mpr
        (Or.inr (List.mem_map_of_mem member))
      resting := settles.2.1 soaking.resting
      served := (congrArg (·.1) settles.2.2).trans soaking.served
      sweeps := (congrArg (·.2.1) settles.2.2).trans soaking.sweeps }, released⟩

end Office

end MemoryLending
