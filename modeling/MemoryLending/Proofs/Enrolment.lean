/-
This file says what becomes of rosters while wrappers retire. A roster is pruned again and again,
wrappers withdraw when they retire, and some make and enrol others. But nobody comes back to life,
nobody is enrolled but the wrappers that come about, and a wrapper that is alive and has not been
told to retire keeps its place, however far retirement follows the wrappers that hold one another.
-/

import MemoryLending.Proofs.Mustering

namespace MemoryLending

theorem Roster.of_mem_enroll {roster : Roster} {alive : WrapperId → Bool} {wrapper id : WrapperId}
    (member : id ∈ (roster.enroll alive wrapper).entries) : id ∈ roster.entries ∨ id = wrapper := by
  unfold Roster.enroll at member
  rcases List.mem_append.mp member with member | new
  · left
    split at member
    · exact (List.mem_filter.mp member).1
    · exact member
  · exact Or.inr (List.mem_singleton.mp new)

/-- Whoever is alive is not swept out on enrolment. -/
theorem Roster.mem_enroll_of_alive {roster : Roster} {alive : WrapperId → Bool}
    {wrapper id : WrapperId} (lives : alive id = true)
    (member : id ∈ roster.entries ∨ id = wrapper) :
    id ∈ (roster.enroll alive wrapper).entries := by
  unfold Roster.enroll
  refine List.mem_append.mpr (member.imp (fun member => ?_) List.mem_singleton.mpr)
  split
  · exact List.mem_filter.mpr ⟨member, lives⟩
  · exact member

namespace Office

/-! ### Wrappers that retire make others -/

/-- The entries on the roster of a lender. -/
def entries (office : Office) (lender : Nat) : List WrapperId :=
  (office.lender lender).roster.entries

/-- The lender that a wrapper works with. -/
def workplace (office : Office) (id : WrapperId) : Option Nat :=
  office.wrappers[id]?.map Wrapper.lender

/-- What retiring and letting go do to rosters: nobody comes back to life, nobody is enrolled but
the wrappers that come about, and nobody whose release has not been claimed is taken off. -/
structure Tracks (before after : Office) : Prop where
  size : after.lenders.size = before.lenders.size
  more : before.wrappers.size ≤ after.wrappers.size
  alive : ∀ id < before.wrappers.size, after.alive id = true → before.alive id = true
  released : ∀ id < before.wrappers.size, before.released id = true → after.released id = true
  workplace : ∀ id < before.wrappers.size, after.workplace id = before.workplace id
  found : ∀ lender, ∀ id ∈ after.entries lender,
    id ∈ before.entries lender ∨ before.wrappers.size ≤ id ∧ after.workplace id = some lender
  kept : ∀ lender id, id < before.wrappers.size → after.alive id = true →
    after.released id = false → id ∈ before.entries lender → id ∈ after.entries lender
  entered : ∀ lender < after.lenders.size, ∀ id, before.wrappers.size ≤ id →
    after.alive id = true → after.released id = false → after.workplace id = some lender →
      id ∈ after.entries lender

theorem size_of_alive {office : Office} {id : WrapperId} (alive : office.alive id = true) :
    id < office.wrappers.size := by
  obtain ⟨wrapper, found, -⟩ := found_of_alive alive
  exact (Array.getElem?_eq_some_iff.mp found).1

theorem size_of_workplace {office : Office} {id : WrapperId} {lender : Nat}
    (works : office.workplace id = some lender) : id < office.wrappers.size := by
  obtain ⟨wrapper, found, -⟩ := Option.map_eq_some_iff.mp works
  exact (Array.getElem?_eq_some_iff.mp found).1

theorem Tracks.refl (office : Office) : Tracks office office where
  size := rfl
  more := Nat.le_refl _
  alive _ _ := id
  released _ _ := id
  workplace _ _ := rfl
  found _ _ := Or.inl
  kept _ _ _ _ _ := id
  entered _ _ _ beyond alive := absurd (size_of_alive alive) (Nat.not_lt.mpr beyond)

theorem Tracks.trans {first second third : Office} (before : first.Tracks second)
    (after : second.Tracks third) : first.Tracks third where
  size := after.size.trans before.size
  more := Nat.le_trans before.more after.more
  alive id old alive :=
    before.alive id old (after.alive id (Nat.lt_of_lt_of_le old before.more) alive)
  released id old released :=
    after.released id (Nat.lt_of_lt_of_le old before.more) (before.released id old released)
  workplace id old :=
    (after.workplace id (Nat.lt_of_lt_of_le old before.more)).trans (before.workplace id old)
  found lender id member := by
    rcases after.found lender id member with member | ⟨beyond, works⟩
    · rcases before.found lender id member with member | ⟨beyond, works⟩
      · exact Or.inl member
      · exact Or.inr ⟨beyond, (after.workplace id (size_of_workplace works)).trans works⟩
    · exact Or.inr ⟨Nat.le_trans before.more beyond, works⟩
  kept lender id old alive unreleased member := by
    have old' := Nat.lt_of_lt_of_le old before.more
    refine after.kept lender id old' alive unreleased (before.kept lender id old
      (after.alive id old' alive) (Bool.eq_false_iff.mpr fun released => ?_) member)
    cases unreleased.symm.trans (after.released id old' released)
  entered lender inRange id beyond alive unreleased works := by
    by_cases old : id < second.wrappers.size
    · refine after.kept lender id old alive unreleased (before.entered lender
        (after.size ▸ inRange) id beyond (after.alive id old alive)
        (Bool.eq_false_iff.mpr fun released => ?_) ((after.workplace id old).symm.trans works))
      cases unreleased.symm.trans (after.released id old released)
    · exact after.entered lender inRange id (Nat.le_of_not_lt old) alive unreleased works

/-- Changes by which no wrapper comes about. -/
theorem Tracks.of_size {before after : Office} (size : after.lenders.size = before.lenders.size)
    (wrappers : after.wrappers.size = before.wrappers.size)
    (alive : ∀ id, after.alive id = true → before.alive id = true)
    (released : ∀ id, before.released id = true → after.released id = true)
    (workplace : ∀ id, after.workplace id = before.workplace id)
    (found : ∀ lender, ∀ id ∈ after.entries lender, id ∈ before.entries lender)
    (kept : ∀ lender id, after.alive id = true → after.released id = false →
      id ∈ before.entries lender → id ∈ after.entries lender) : before.Tracks after where
  size := size
  more := Nat.le_of_eq wrappers.symm
  alive id _ := alive id
  released id _ := released id
  workplace id _ := workplace id
  found lender id member := Or.inl (found lender id member)
  kept lender id _ := kept lender id
  entered _ _ _ beyond alive :=
    absurd (size_of_alive alive) (Nat.not_lt.mpr (wrappers ▸ beyond))

/-! ### Wrappers and rosters -/

/-- The wrappers, and the roster of every lender. -/
def listing (office : Office) : Array Wrapper × Array Roster :=
  (office.wrappers, office.lenders.map Lender.roster)

theorem listing_withDesk (office : Office) (index : Nat) {desk : Desk}
    (same : desk.standing = (office.desk index).standing) :
    (office.withDesk index desk).listing = office.listing :=
  congrArg (Prod.mk office.wrappers) (office.map_withDesk index (congrArg (·.2.1) same))

section Listing

variable {before after : Office} (same : after.listing = before.listing)

include same

theorem size_of_listing : after.lenders.size = before.lenders.size := by
  have rosters := congrArg (·.2.size) same
  simpa only [listing, Array.size_map] using rosters

theorem entries_of_listing (lender : Nat) : after.entries lender = before.entries lender := by
  have read : ∀ office : Office, office.entries lender =
      (office.listing.2.getD lender default).entries := by
    intro office
    unfold entries Office.lender listing
    rw [Array.getD_eq_getD_getElem?, Array.getD_eq_getD_getElem?, Array.getElem?_map]
    cases office.lenders[lender]? <;> rfl
  rw [read, read, same]

theorem alive_of_listing (id : WrapperId) : after.alive id = before.alive id := by
  unfold Office.alive
  rw [show after.wrappers = before.wrappers from congrArg (·.1) same]

theorem released_of_listing (id : WrapperId) : after.released id = before.released id := by
  unfold Office.released
  rw [show after.wrappers = before.wrappers from congrArg (·.1) same]

theorem Tracks.of_listing : before.Tracks after := by
  have wrappers : after.wrappers = before.wrappers := congrArg (·.1) same
  refine .of_size (size_of_listing same) (congrArg Array.size wrappers)
    (fun id => (alive_of_listing same id ▸ ·)) (fun id => ((released_of_listing same id).trans ·))
    (fun id => ?_) (fun lender id => (entries_of_listing same lender ▸ ·))
    fun lender id _ _ => ((entries_of_listing same lender).symm ▸ ·)
  unfold Office.workplace
  rw [wrappers]

end Listing

theorem quiet_listing : Quiet fun before after => after.listing = before.listing :=
  { Chained.of_reading listing with
    journal := fun _ _ => rfl
    sensors := fun _ _ => rfl
    hosts := fun _ _ => rfl
    reclaim := fun office lender address token => office.listing_withDesk lender
      (Desk.standing_loans.reclaim (office.desk lender) address token)
    endLease := fun office lender replica => office.listing_withDesk lender
      ((office.desk lender).standing_endLease replica) }

theorem asks_listing : Asks fun before after => after.listing = before.listing :=
  { Chained.of_reading listing with
    journal := fun _ _ => rfl
    arena := fun _ _ => rfl
    sensors := fun _ _ => rfl
    hosts := fun _ _ => rfl
    lend := fun office lender size => office.listing_withDesk lender
      ((office.desk lender).standing_lend size) }

/-! ### Retiring and letting go -/

section Wrappers

variable (office : Office) (id : WrapperId)

theorem tracks_changeWrapper {change : Wrapper → Wrapper}
    (lender : ∀ wrapper, (change wrapper).lender = wrapper.lender)
    (alive : ∀ wrapper, office.wrappers[id]? = some wrapper → (change wrapper).alive = true →
      wrapper.alive = true)
    (released : ∀ wrapper, wrapper.flag.released = true → (change wrapper).flag.released = true) :
    office.Tracks (Action.changeWrapper id change office).2 := by
  have changed := fun other => office.getElem?_changeWrapper id other change
  refine .of_size rfl Array.size_modify (fun other => ?_)
    (fun _ => released_changeWrapper released) (fun other => ?_) (fun _ _ member => member)
    fun _ _ _ _ member => member
  · unfold Office.alive
    rw [changed]
    cases found : office.wrappers[other]? with
    | none => rw [Option.map_none, ite_self]; exact fun alive => alive
    | some wrapper =>
      by_cases same : id = other
      · subst same
        rw [if_pos rfl]
        exact alive wrapper found
      · rw [if_neg same]
        exact fun alive => alive
  · unfold Office.workplace
    rw [changed]
    split
    · rw [Option.map_map]
      exact congrArg (Option.map · _) (funext lender)
    · rfl

theorem tracks_withdraw (released : office.released id = true) (index : Nat) :
    office.Tracks (Action.withdraw index id office).2 := by
  have changed := fun lender => office.lender_changeRoster index lender fun roster alive =>
    roster.withdraw alive id
  refine .of_size Array.size_modify rfl (fun _ alive => alive) (fun _ released => released)
    (fun _ => rfl) (fun lender other => ?_) fun lender other alive unreleased => ?_
  · unfold entries Action.withdraw
    rw [changed]
    split
    · exact fun member => (List.mem_filter.mp (List.mem_filter.mp member).1).1
    · exact fun member => member
  · unfold entries Action.withdraw
    rw [changed]
    split
    · intro member
      refine List.mem_filter.mpr ⟨List.mem_filter.mpr ⟨member, alive⟩, bne_iff_ne.mpr ?_⟩
      rintro rfl
      cases unreleased.symm.trans released
    · exact fun member => member

theorem getElem?_makeWrapper (name : String) (lender : Nat) (duty : Duty) (other : WrapperId) :
    (Action.makeWrapper name lender duty office).2.wrappers[other]? =
      if other = office.wrappers.size then some ⟨name, lender, duty, ReleaseFlag.held, 1⟩
      else office.wrappers[other]? :=
  Array.getElem?_push

theorem tracks_spawn (name : String) (lender : Nat) :
    office.Tracks (Action.enroll lender office.wrappers.size
      (Action.makeWrapper name lender .plain office).2).2 := by
  have made : ∀ other : WrapperId, (Action.enroll lender office.wrappers.size
      (Action.makeWrapper name lender .plain office).2).2.wrappers[other]? = _ :=
    office.getElem?_makeWrapper name lender .plain
  have changed := fun other => (Action.makeWrapper name lender .plain office).2.lender_changeRoster
    lender other fun roster alive => roster.enroll alive office.wrappers.size
  have older : ∀ id < office.wrappers.size, (Action.enroll lender office.wrappers.size
      (Action.makeWrapper name lender .plain office).2).2.wrappers[id]? = office.wrappers[id]? :=
    fun id old => (made id).trans (if_neg (Nat.ne_of_lt old))
  refine
    { size := Array.size_modify
      more := Array.size_push .. ▸ Nat.le_succ _
      alive := fun id old => ?_
      released := fun id old => ?_
      workplace := fun id old => ?_
      found := fun other id member => ?_
      kept := fun other id old alive unreleased member => ?_
      entered := fun other inRange id beyond alive unreleased works => ?_ }
  · unfold Office.alive
    rw [older id old]
    exact fun alive => alive
  · unfold Office.released
    rw [older id old]
    exact fun released => released
  · unfold Office.workplace
    rw [older id old]
  · unfold entries Action.enroll at member
    rw [changed] at member
    split at member
    · rename_i both
      refine (Roster.of_mem_enroll member).imp (fun member => member) ?_
      rintro rfl
      refine ⟨Nat.le_refl _, ?_⟩
      unfold Office.workplace
      rw [made, if_pos rfl]
      exact congrArg some both.1
    · exact Or.inl member
  · unfold entries Action.enroll
    rw [changed]
    split
    · exact Roster.mem_enroll_of_alive alive (Or.inl member)
    · exact member
  · obtain rfl : id = office.wrappers.size := by
      have newest := size_of_alive alive
      rw [show (Action.enroll lender office.wrappers.size (Action.makeWrapper name lender .plain
        office).2).2.wrappers.size = office.wrappers.size + 1 from Array.size_push ..] at newest
      exact Nat.le_antisymm (Nat.le_of_lt_succ newest) beyond
    unfold Office.workplace at works
    rw [made, if_pos rfl] at works
    obtain rfl : lender = other := Option.some_inj.mp works
    unfold entries Action.enroll
    rw [changed, if_pos ⟨rfl, inRange.trans_eq Array.size_modify⟩]
    exact Roster.mem_enroll_of_alive alive (Or.inr rfl)

end Wrappers

/-- Nothing that wrappers do when they retire is seen by the roll but the wrappers they make. -/
theorem retires_tracks : Retires Tracks fun office id =>
    id < office.wrappers.size ∧ office.released id = true where
  refl := Tracks.refl
  trans := Tracks.trans
  journal office event := .of_listing (quiet_listing.journal office event)
  sensors office sensors := .of_listing (quiet_listing.sensors office sensors)
  hosts office hosts := .of_listing (quiet_listing.hosts office hosts)
  reclaim office lender address token :=
    .of_listing (quiet_listing.reclaim office lender address token)
  endLease office lender replica := .of_listing (quiet_listing.endLease office lender replica)
  claim id office := by
    cases found : office.wrappers[id]? with
    | none =>
      rw [Action.claim_of_absent found]
      exact Tracks.refl office
    | some wrapper =>
      rw [Action.claim_of_found found]
      exact office.tracks_changeWrapper id (fun _ => rfl) (fun _ _ alive => alive) fun _ _ => rfl
  unhold id office := by
    unfold Action.unhold
    rw [Action.run_get_bind]
    cases found : office.wrappers[id]? with
    | none => exact Tracks.refl office
    | some wrapper =>
      dsimp only
      by_cases gone : wrapper.holders = 0
      · rw [if_pos gone]
        exact Tracks.refl office
      · rw [if_neg gone]
        refine office.tracks_changeWrapper id (fun _ => rfl) (fun other found' _ => ?_)
          fun _ released => released
        cases found.symm.trans found'
        exact bne_iff_ne.mpr gone
  setDuty id duty office :=
    office.tracks_changeWrapper id (fun _ => rfl) (fun _ _ alive => alive)
      fun _ released => released
  spawn := tracks_spawn
  claimed := by
    intro office after id wrapper claimed
    cases found : office.wrappers[id]? with
    | none => cases claimed.symm.trans (Action.claim_of_absent found)
    | some wrapper =>
      obtain rfl := congrArg Prod.snd (claimed.symm.trans (Action.claim_of_found found))
      exact ⟨(Array.getElem?_eq_some_iff.mp found).1.trans_eq Array.size_modify.symm,
        office.released_of_claim id⟩
  keeps tracks claimed :=
    ⟨Nat.lt_of_lt_of_le claimed.1 tracks.more, tracks.released _ claimed.1 claimed.2⟩
  withdraw claimed lender := tracks_withdraw _ _ claimed.2 lender

end Office

end MemoryLending
