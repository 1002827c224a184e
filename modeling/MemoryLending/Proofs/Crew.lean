/-
This file follows a roster exactly. The crew of an office are the wrappers on the roster of its
lender, if all of them are alive and none has been released. A wrapper that is made and enrolled
joins the crew at its end, whether or not the roster sweeps out dead entries on the way, since there
are none; a capture that hands its frame back when its last holder is gone leaves the crew, and
nobody else does.
-/

import MemoryLending.Proofs.Handover

namespace MemoryLending

namespace Office

/-- The roster of the lender names these wrappers, each once. They are alive and have not been
released. -/
structure Crew (office : Office) (ids : List WrapperId) : Prop where
  entries : office.entries 0 = ids
  distinct : ids.Nodup
  alive : ∀ id ∈ ids, office.alive id = true
  unreleased : ∀ id ∈ ids, office.released id = false

theorem Crew.of_listing {before after : Office} {ids : List WrapperId}
    (same : after.listing = before.listing) (crew : before.Crew ids) : after.Crew ids where
  entries := (entries_of_listing same 0).trans crew.entries
  distinct := crew.distinct
  alive id member := (alive_of_listing same id).trans (crew.alive id member)
  unreleased id member := (released_of_listing same id).trans (crew.unreleased id member)

/-- A new wrapper stands at the end of the roster: whether or not dead entries are swept out on
the way, there are none. -/
theorem Crew.spawn {office : Office} {ids : List WrapperId} (crew : office.Crew ids)
    (inRange : 0 < office.lenders.size) (name : String) (duty : Duty) :
    (Action.enroll 0 office.wrappers.size (Action.makeWrapper name 0 duty office).2).2.Crew
      (ids ++ [office.wrappers.size]) := by
  have made := office.getElem?_makeWrapper name 0 duty
  have lenders : (Action.makeWrapper name 0 duty office).2.lenders = office.lenders := rfl
  generalize (Action.makeWrapper name 0 duty office).2 = between at made lenders
  have older : ∀ id ∈ ids, id ≠ office.wrappers.size := fun id member =>
    Nat.ne_of_lt (size_of_alive (crew.alive id member))
  have alive : ∀ id ∈ ids ++ [office.wrappers.size], between.alive id = true := by
    intro id member
    unfold Office.alive
    rw [made]
    rcases List.mem_append.mp member with old | new
    · rw [if_neg (older id old)]
      exact crew.alive id old
    · rw [if_pos (List.mem_singleton.mp new)]
      rfl
  have unreleased : ∀ id ∈ ids ++ [office.wrappers.size], between.released id = false := by
    intro id member
    unfold Office.released
    rw [made]
    rcases List.mem_append.mp member with old | new
    · rw [if_neg (older id old)]
      exact crew.unreleased id old
    · rw [if_pos (List.mem_singleton.mp new)]
      rfl
  have lender : between.lender 0 = office.lender 0 := by
    unfold Office.lender
    rw [lenders]
  have enrolled := between.lender_changeRoster 0 0 fun roster alive =>
    roster.enroll alive office.wrappers.size
  rw [if_pos ⟨rfl, lenders ▸ inRange⟩, lender] at enrolled
  have living : (office.lender 0).roster.living between.alive = ids := by
    unfold Roster.living
    rw [show (office.lender 0).roster.entries = ids from crew.entries]
    exact List.filter_eq_self.mpr fun id member => alive id (List.mem_append_left _ member)
  refine ⟨?_, ?_, alive, unreleased⟩
  · unfold Office.entries Action.enroll
    rw [enrolled]
    dsimp only [Roster.enroll]
    split
    · dsimp only [Roster.sweep]
      rw [living]
    · rw [show (office.lender 0).roster.entries = ids from crew.entries]
  · refine List.nodup_append.mpr ⟨crew.distinct, List.nodup_singleton _, fun id old other new => ?_⟩
    rw [List.mem_singleton.mp new]
    exact older id old

/-- The last capture of the crew hands its frame back and leaves. -/
theorem Crew.returned {office : Office} {ids : List WrapperId} {id : WrapperId} {name : String}
    {frame : Frame} {desk : Desk} (inRange : 0 < office.lenders.size)
    (entries : office.entries 0 = ids ++ [id]) (distinct : (ids ++ [id]).Nodup)
    (alive : ∀ other ∈ ids, office.alive other = true)
    (unreleased : ∀ other ∈ ids, office.released other = false)
    (found : office.wrappers[id]? = some ⟨name, 0, .capture 0 (some frame), ⟨false⟩, 0⟩)
    (roster : desk.lender.roster = (office.lender 0).roster) :
    (office.returned id desk).Crew ids := by
  have changed := getElem?_emptied found
  obtain ⟨distinct, -, apart⟩ := List.nodup_append.mp distinct
  have different : ∀ other ∈ ids, id ≠ other := fun other member same =>
    apart other member id (List.mem_singleton_self id) same.symm
  have lives : ∀ other ∈ ids, ((office.emptied id).withDesk 0 desk).alive other = true := by
    intro other member
    have here := alive other member
    unfold Office.alive at here ⊢
    rw [show ((office.emptied id).withDesk 0 desk).wrappers[other]? = _ from changed other,
      if_neg (different other member)]
    exact here
  have gone : ((office.emptied id).withDesk 0 desk).alive id = false := by
    unfold Office.alive
    rw [show ((office.emptied id).withDesk 0 desk).wrappers[id]? = _ from changed id, if_pos rfl]
    rfl
  have size : 0 < ((office.emptied id).withDesk 0 desk).lenders.size :=
    inRange.trans_eq ((office.emptied id).size_withDesk 0 desk).symm
  refine ⟨?_, distinct, lives, fun other member => ?_⟩
  · unfold Office.entries Office.returned Action.withdraw
    rw [lender_changeRoster, if_pos ⟨rfl, size⟩]
    dsimp only [Roster.withdraw, Roster.living]
    rw [show ((office.emptied id).withDesk 0 desk).lender 0 = desk.lender from
      ((office.emptied id).lender_withDesk 0 0 desk).trans (if_pos ⟨rfl, inRange⟩), roster,
      show (office.lender 0).roster.entries = ids ++ [id] from entries, List.filter_append,
      List.filter_eq_self.mpr lives, List.filter_cons_of_neg (Bool.eq_false_iff.mp gone),
      List.filter_nil, List.append_nil]
    exact List.filter_eq_self.mpr fun other member =>
      bne_iff_ne.mpr (different other member).symm
  · show (office.emptied id).released other = false
    have here := unreleased other member
    unfold Office.released at here ⊢
    rw [changed, if_neg (different other member)]
    exact here

end Office

end MemoryLending
