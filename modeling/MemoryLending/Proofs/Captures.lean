/-
This file says what is true of an office in which nobody but captures holds loans. Every capture
has its frame or has handed it back and is off the roster; the loans are the frames that captures
have, and the records of returns are the frames that captures have handed back, each once. A
change that touches no frame keeps all this, and so does a capture that hands its frame back.
-/

import MemoryLending.Proofs.Dealings
import MemoryLending.Proofs.Windows

namespace MemoryLending

namespace Frame

/-- The record of the loan that a frame was taken with. -/
def lent (frame : Frame) : Event := .lent frame.address frame.length frame.context

/-- The record that the loan of a frame was taken back. -/
def reclaimed (frame : Frame) : Event := .reclaimed frame.address frame.length frame.context

/-- What the sensor owes for a frame. -/
def debt (frame : Frame) : Debt := ⟨frame.address, frame.length, frame.context⟩

end Frame

namespace Duty

def isCapture : Duty → Bool
  | capture .. => true
  | _ => false

/-- Whether a wrapper holds nothing that a lender has lent, and no other wrapper. -/
def isAside : Duty → Bool
  | plain | automatic | session _ => true
  | _ => false

/-- Neither a capture nor a wrapper that holds nothing holds another wrapper. -/
theorem child?_eq_none {duty : Duty} (simple : duty.isAside = true ∨ duty.isCapture = true) :
    duty.child? = none := by
  cases duty with
  | parent child | owner child | spawner child =>
    rcases simple with aside | capture
    · cases aside
    · cases capture
  | _ => rfl

theorem selfRetiring_of_capture {duty : Duty} (capture : duty.isCapture = true) :
    duty.selfRetiring = true := by
  cases duty with
  | capture sensor frame => rfl
  | _ => cases capture

theorem isCapture_of_aside {duty : Duty} (aside : duty.isAside = true) :
    duty.isCapture = false := by
  cases duty with
  | capture sensor frame => cases aside
  | _ => rfl

end Duty

/-- What a wrapper has to do with frames: its lender, its duty, and, if it is a capture, whether
it has been released. -/
def Wrapper.stake (wrapper : Wrapper) : Nat × Duty × Bool :=
  (wrapper.lender, wrapper.duty, wrapper.duty.isCapture && wrapper.flag.released)

/-- Of the members of a list that differ in their keys, one more is chosen. -/
theorem filter_perm_cons {Key Item : Type} [DecidableEq Key] [DecidableEq Item]
    {items : List (Key × Item)} (distinct : (items.map Prod.fst).Nodup) {item : Key × Item}
    (member : item ∈ items) {more fewer : Key × Item → Bool} (chosen : more item = true)
    (left : fewer item = false)
    (same : ∀ other ∈ items, other.1 ≠ item.1 → more other = fewer other) :
    (items.filter more).Perm (item :: items.filter fewer) := by
  have parts := List.perm_cons_erase member
  have apart : ∀ other ∈ items.erase item, other.1 ≠ item.1 := by
    intro other here same
    have keys : (item.1 :: (items.erase item).map Prod.fst).Nodup :=
      (parts.map Prod.fst).nodup_iff.mp distinct
    exact (List.nodup_cons.mp keys).1 (same ▸ List.mem_map_of_mem here)
  have rest : (items.erase item).filter more = (items.erase item).filter fewer :=
    List.filter_congr fun other here => same other (List.mem_of_mem_erase here) (apart other here)
  refine (parts.filter more).trans ?_
  rw [List.filter_cons_of_pos chosen, rest]
  refine List.Perm.cons item ?_
  have others := parts.filter fewer
  rw [List.filter_cons_of_neg (Bool.eq_false_iff.mp left)] at others
  exact others.symm

namespace Office

/-! ### Stakes -/

/-- What a wrapper has to do with frames. -/
def stake (office : Office) (id : WrapperId) : Option (Nat × Duty × Bool) :=
  office.wrappers[id]?.map Wrapper.stake

/-- A capture of the sensor that has its frame. -/
def Filled (office : Office) (id : WrapperId) (frame : Frame) : Prop :=
  office.stake id = some (0, .capture 0 (some frame), false)

/-- A capture of the sensor that has handed its frame back. -/
def Emptied (office : Office) (id : WrapperId) : Prop :=
  office.stake id = some (0, .capture 0 none, true) ∧ id ∉ (office.lender 0).roster.entries

/-- A wrapper that somebody holds and that is on the roster of the lender. -/
def Attended (office : Office) (id : WrapperId) : Prop :=
  office.alive id = true ∧ id ∈ (office.lender 0).roster.entries

theorem found_of_stake {office : Office} {id : WrapperId} {stake : Nat × Duty × Bool}
    (has : office.stake id = some stake) :
    ∃ wrapper, office.wrappers[id]? = some wrapper ∧ wrapper.stake = stake :=
  Option.map_eq_some_iff.mp has

theorem released_of_stake {office : Office} {id : WrapperId} {lender sensor : Nat}
    {frame : Option Frame} {released : Bool}
    (has : office.stake id = some (lender, .capture sensor frame, released)) :
    office.released id = released := by
  obtain ⟨wrapper, found, same⟩ := found_of_stake has
  rw [released_of_found found]
  obtain ⟨name, lender', duty, flag, holders⟩ := wrapper
  cases same
  rfl

/-! ### What is true of captures -/

/-- What is true of an office with one lender in which nobody but these captures, each with the
frame that it was made with, has held a loan. -/
structure Captured (office : Office) (captures : List (WrapperId × Frame)) : Prop where
  size : office.lenders.size = 1
  hooked : office.connected 0 = true → office.served = some 0
  connected : captures ≠ [] → office.connected 0 = true
  distinct : (captures.map Prod.fst).Nodup
  kept : ∀ capture ∈ captures, office.Filled capture.1 capture.2 ∨ office.Emptied capture.1
  others : ∀ id stake, office.stake id = some stake →
    stake.2.1.isAside = true ∨ ∃ frame, (id, frame) ∈ captures
  granted : office.journal.grants = captures.map (·.2.lent)
  returned : office.journal.returns.Perm
    ((captures.filter (office.released ·.1)).map (·.2.reclaimed))
  loans : ((office.lender 0).loans.toList.map Loan.debt).Perm
    ((captures.filter (!office.released ·.1)).map (·.2.debt))

section Captured

variable {office : Office} {captures : List (WrapperId × Frame)}
  (captured : office.Captured captures)

include captured

theorem Captured.filled_iff {capture : WrapperId × Frame} (member : capture ∈ captures) :
    office.Filled capture.1 capture.2 ↔ office.released capture.1 = false := by
  rcases captured.kept capture member with filled | ⟨emptied, -⟩
  · exact iff_of_true filled (released_of_stake filled)
  · refine iff_of_false (fun filled => ?_) fun unreleased => ?_
    · cases filled.symm.trans emptied
    · cases unreleased.symm.trans (released_of_stake emptied)

theorem Captured.emptied {capture : WrapperId × Frame} (member : capture ∈ captures)
    (released : office.released capture.1 = true) : office.Emptied capture.1 := by
  refine (captured.kept capture member).resolve_left fun filled => ?_
  cases released.symm.trans (released_of_stake filled)

theorem Captured.lt_size {capture : WrapperId × Frame} (member : capture ∈ captures) :
    capture.1 < office.wrappers.size := by
  have found : ∃ stake, office.stake capture.1 = some stake := by
    rcases captured.kept capture member with filled | ⟨emptied, -⟩
    · exact ⟨_, filled⟩
    · exact ⟨_, emptied⟩
  obtain ⟨stake, has⟩ := found
  obtain ⟨wrapper, found, -⟩ := found_of_stake has
  exact (Array.getElem?_eq_some_iff.mp found).1

/-- A capture whose stake has not changed has not been released meanwhile. -/
theorem Captured.released_of_same {after : Office} {capture : WrapperId × Frame}
    (member : capture ∈ captures) (same : after.stake capture.1 = office.stake capture.1) :
    after.released capture.1 = office.released capture.1 := by
  rcases captured.kept capture member with filled | ⟨emptied, -⟩
  · rw [released_of_stake filled, released_of_stake (same.trans filled)]
  · rw [released_of_stake emptied, released_of_stake (same.trans emptied)]

theorem Captured.not_aside {capture : WrapperId × Frame} (member : capture ∈ captures)
    {stake : Nat × Duty × Bool} (has : office.stake capture.1 = some stake) :
    stake.2.1.isAside = false := by
  rcases captured.kept capture member with filled | ⟨emptied, -⟩
  · cases has.symm.trans filled
    rfl
  · cases has.symm.trans emptied
    rfl

/-- A wrapper that is not aside is one of the captures. -/
theorem Captured.simple {id : WrapperId} {wrapper : Wrapper}
    (found : office.wrappers[id]? = some wrapper) :
    wrapper.duty.isAside = true ∨ wrapper.duty.isCapture = true := by
  have has : office.stake id = some wrapper.stake := congrArg (Option.map Wrapper.stake) found
  refine (captured.others id _ has).imp_right fun ⟨frame, member⟩ => ?_
  rcases captured.kept _ member with filled | ⟨emptied, -⟩
  · have duty : wrapper.duty = .capture 0 (some frame) :=
      congrArg (·.2.1) (Option.some.inj (has.symm.trans filled))
    rw [duty]
    rfl
  · have duty : wrapper.duty = .capture 0 none :=
      congrArg (·.2.1) (Option.some.inj (has.symm.trans emptied))
    rw [duty]
    rfl

/-- Whoever is no capture is no other wrapper with a frame either. -/
theorem Captured.frame_of_stake {id : WrapperId} {lender sensor : Nat} {frame : Option Frame}
    {released : Bool} (has : office.stake id = some (lender, .capture sensor frame, released)) :
    ∃ frame, (id, frame) ∈ captures :=
  (captured.others id _ has).resolve_left nofun

/-- The frame of a capture that has not been released is on loan. -/
theorem Captured.lends {id : WrapperId} {frame : Frame} (member : (id, frame) ∈ captures)
    (unreleased : office.released id = false) : office.Lends 0 frame := by
  have listed : frame.debt ∈ (captures.filter (!office.released ·.1)).map (·.2.debt) :=
    List.mem_map.mpr ⟨(id, frame), List.mem_filter.mpr ⟨member, congrArg (!·) unreleased⟩, rfl⟩
  obtain ⟨loan, lent, same⟩ := List.mem_map.mp (captured.loans.mem_iff.mpr listed)
  exact ⟨loan, lent, congrArg Debt.base same, congrArg Debt.token same,
    congrArg Debt.length same⟩

/-- Whoever has a frame is a capture with that frame. -/
theorem Captured.mem_of_holding {id : WrapperId} {lender : Nat} {frame : Frame}
    (holding : office.Holding id lender frame) :
    lender = 0 ∧ (id, frame) ∈ captures ∧ office.released id = false := by
  obtain ⟨wrapper, sensor, found, held, rfl, duty⟩ := holding
  have has : office.stake id = some (wrapper.lender, .capture sensor (some frame), false) := by
    unfold Office.stake
    rw [found]
    show some (wrapper.lender, wrapper.duty, wrapper.duty.isCapture && wrapper.flag.released) = _
    rw [duty, held]
    rfl
  obtain ⟨frame', member⟩ := captured.frame_of_stake has
  have unreleased := released_of_stake has
  have filled := (captured.filled_iff member).mpr unreleased
  obtain ⟨here, same⟩ := Prod.mk.inj (Option.some.inj (has.symm.trans filled))
  cases (Prod.mk.inj same).1
  exact ⟨here, member, unreleased⟩

theorem Captured.lends_of_holding {id : WrapperId} {lender : Nat} {frame : Frame}
    (holding : office.Holding id lender frame) : office.Lends lender frame := by
  obtain ⟨rfl, member, unreleased⟩ := captured.mem_of_holding holding
  exact captured.lends member unreleased

/-- As many loans are out as captures have not been released. -/
theorem Captured.outstanding :
    (office.lender 0).loans.count = captures.countP (!office.released ·.1) := by
  have same := captured.loans.length_eq
  rw [List.length_map, List.length_map, ← List.countP_eq_length_filter] at same
  exact same

end Captured

/-! ### Changes that touch no frame -/

/-- No frame has been touched: captures are as they were, and so are the loans and the records of
loans and returns. Only the wrappers `ids` may have ended or left the roster. -/
structure Undisturbed (ids : List WrapperId) (before after : Office) : Prop where
  size : after.lenders.size = before.lenders.size
  served : after.served = before.served
  connected : after.connected 0 = before.connected 0
  grown : before.wrappers.size ≤ after.wrappers.size
  stakes : ∀ id < before.wrappers.size, after.stake id = before.stake id
  fresh : ∀ id, before.wrappers.size ≤ id → ∀ stake, after.stake id = some stake →
    stake.2.1.isAside = true
  roster : ∀ id ∈ (after.lender 0).roster.entries,
    id ∈ (before.lender 0).roster.entries ∨ before.wrappers.size ≤ id
  attends : ∀ id ∉ ids, before.Attended id → after.Attended id
  loans : (after.lender 0).loans = (before.lender 0).loans
  dealings : after.journal.dealings = before.journal.dealings

namespace Undisturbed

variable {ids more : List WrapperId} {before between after : Office}

theorem none_of_beyond {office : Office} {id : WrapperId} (beyond : office.wrappers.size ≤ id) :
    office.stake id = none := by
  unfold Office.stake
  rw [Array.getElem?_eq_none beyond]
  rfl

/-- Nobody is new where all stakes are the same. -/
theorem fresh_of_same (same : ∀ id, after.stake id = before.stake id) (id : WrapperId)
    (beyond : before.wrappers.size ≤ id) (stake : Nat × Duty × Bool)
    (has : after.stake id = some stake) : stake.2.1.isAside = true := by
  cases has.symm.trans ((same id).trans (none_of_beyond beyond))

theorem refl (ids : List WrapperId) (office : Office) : Undisturbed ids office office where
  size := rfl
  served := rfl
  connected := rfl
  grown := Nat.le_refl _
  stakes _ _ := rfl
  fresh := fresh_of_same fun _ => rfl
  roster _ := Or.inl
  attends _ _ := id
  loans := rfl
  dealings := rfl

theorem trans (first : Undisturbed ids before between) (second : Undisturbed ids between after) :
    Undisturbed ids before after where
  size := second.size.trans first.size
  served := second.served.trans first.served
  connected := second.connected.trans first.connected
  grown := Nat.le_trans first.grown second.grown
  stakes id inside :=
    (second.stakes id (Nat.lt_of_lt_of_le inside first.grown)).trans (first.stakes id inside)
  fresh id beyond stake has := by
    by_cases inside : id < between.wrappers.size
    · exact first.fresh id beyond stake ((second.stakes id inside).symm.trans has)
    · exact second.fresh id (Nat.le_of_not_lt inside) stake has
  roster id member := by
    rcases second.roster id member with member | beyond
    · exact first.roster id member
    · exact Or.inr (Nat.le_trans first.grown beyond)
  attends id other attended := second.attends id other (first.attends id other attended)
  loans := second.loans.trans first.loans
  dealings := second.dealings.trans first.dealings

theorem chained (ids : List WrapperId) : Chained (Undisturbed ids) where
  refl := refl ids
  trans := trans

/-- Who stays attended need not be named. -/
theorem spare (undisturbed : Undisturbed ids before after)
    (kept : ∀ id ∈ ids, id ∉ more → before.Attended id → after.Attended id) :
    Undisturbed more before after :=
  { undisturbed with
    attends := fun id other attended => by
      by_cases member : id ∈ ids
      · exact kept id member other attended
      · exact undisturbed.attends id member attended }

theorem released (undisturbed : Undisturbed ids before after)
    {captures : List (WrapperId × Frame)} (captured : before.Captured captures)
    {capture : WrapperId × Frame} (member : capture ∈ captures) :
    after.released capture.1 = before.released capture.1 :=
  captured.released_of_same member (undisturbed.stakes capture.1 (captured.lt_size member))

theorem captured (undisturbed : Undisturbed ids before after)
    {captures : List (WrapperId × Frame)} (captured : before.Captured captures) :
    after.Captured captures where
  size := undisturbed.size.trans captured.size
  hooked connected := by
    rw [undisturbed.connected] at connected
    exact undisturbed.served.trans (captured.hooked connected)
  connected some := undisturbed.connected.trans (captured.connected some)
  distinct := captured.distinct
  kept capture member := by
    have inside := captured.lt_size member
    have same := undisturbed.stakes capture.1 inside
    refine (captured.kept capture member).imp same.trans fun ⟨emptied, off⟩ =>
      ⟨same.trans emptied, fun listed => ?_⟩
    rcases undisturbed.roster capture.1 listed with listed | beyond
    · exact off listed
    · exact absurd inside (Nat.not_lt_of_le beyond)
  others id stake has := by
    by_cases inside : id < before.wrappers.size
    · exact captured.others id stake ((undisturbed.stakes id inside).symm.trans has)
    · exact Or.inl (undisturbed.fresh id (Nat.le_of_not_lt inside) stake has)
  granted := (congrArg Prod.fst undisturbed.dealings).trans captured.granted
  returned := by
    rw [show after.journal.returns = before.journal.returns from
      congrArg Prod.snd undisturbed.dealings, List.filter_congr fun capture member =>
        undisturbed.released captured member]
    exact captured.returned
  loans := by
    rw [undisturbed.loans, List.filter_congr fun capture member =>
      congrArg (!·) (undisturbed.released captured member)]
    exact captured.loans

end Undisturbed

section Small

variable (office : Office)

/-- Work beside the lenders and the wrappers. -/
theorem undisturbed_beside {after : Office} (ids : List WrapperId)
    (lenders : after.lenders = office.lenders) (wrappers : after.wrappers = office.wrappers)
    (served : after.served = office.served) (connected : after.connected 0 = office.connected 0)
    (dealings : after.journal.dealings = office.journal.dealings) :
    Undisturbed ids office after := by
  have lender : after.lender 0 = office.lender 0 := by
    unfold Office.lender
    rw [lenders]
  have alive : ∀ id, after.alive id = office.alive id := fun id => by
    unfold Office.alive
    rw [wrappers]
  have stake : ∀ id, after.stake id = office.stake id := fun id => by
    unfold Office.stake
    rw [wrappers]
  exact
    { Undisturbed.refl ids office with
      size := congrArg Array.size lenders
      served, connected, dealings
      grown := Nat.le_of_eq (congrArg Array.size wrappers).symm
      stakes := fun id _ => stake id
      fresh := Undisturbed.fresh_of_same stake
      roster := fun id member => Or.inl (lender ▸ member)
      attends := fun id _ ⟨lives, listed⟩ => ⟨(alive id).trans lives, lender ▸ listed⟩
      loans := congrArg Lender.loans lender }

theorem undisturbed_log (ids : List WrapperId) {event : Event} (idle : event.isDeal = false) :
    Undisturbed ids office (Action.log event office).2 :=
  office.undisturbed_beside ids rfl rfl rfl rfl (office.journal.dealings_cons idle)

theorem undisturbed_ready (places : List Nat) :
    Undisturbed [] office { office with arena := office.arena.announce places } :=
  office.undisturbed_beside [] rfl rfl rfl rfl rfl

/-- The end of work at the desk of the only lender that touches no loan. -/
theorem undisturbed_withDesk (index : Nat) {desk : Desk}
    (roster : desk.lender.roster = (office.lender index).roster)
    (loans : desk.lender.loans = (office.lender index).loans)
    (dealings : desk.dealings = office.journal.dealings) :
    Undisturbed [] office (office.withDesk index desk) := by
  have lender : ((office.withDesk index desk).lender 0).roster = (office.lender 0).roster ∧
      ((office.withDesk index desk).lender 0).loans = (office.lender 0).loans := by
    rw [lender_withDesk]
    split
    · rename_i both
      rw [← both.1]
      exact ⟨roster, loans⟩
    · exact ⟨rfl, rfl⟩
  exact
    { Undisturbed.refl [] office with
      size := office.size_withDesk index desk
      roster := fun id member => Or.inl (lender.1 ▸ member)
      attends := fun id _ ⟨lives, listed⟩ => ⟨lives, lender.1 ▸ listed⟩
      loans := lender.2
      dealings }

/-- Wrappers of which only the holders have changed, and the claims of those that are aside. -/
theorem undisturbed_wrappers (ids : List WrapperId) {wrappers : Array Wrapper}
    (size : wrappers.size = office.wrappers.size)
    (same : ∀ id : WrapperId, wrappers[id]?.map Wrapper.stake = office.stake id)
    (alive : ∀ id ∉ ids, office.alive id = true → alive { office with wrappers } id = true) :
    Undisturbed ids office { office with wrappers } :=
  { Undisturbed.refl ids office with
    grown := Nat.le_of_eq size.symm
    stakes := fun id _ => same id
    fresh := Undisturbed.fresh_of_same same
    attends := fun id other attended => ⟨alive id other attended.1, attended.2⟩ }

theorem undisturbed_changeWrapper (id : WrapperId) {change : Wrapper → Wrapper}
    (same : ∀ wrapper, office.wrappers[id]? = some wrapper →
      (change wrapper).stake = wrapper.stake) :
    Undisturbed [id] office (Action.changeWrapper id change office).2 := by
  have changed := fun other => office.getElem?_changeWrapper id other change
  refine office.undisturbed_wrappers [id] Array.size_modify (fun other => ?_)
    fun other different lives => ?_
  · rw [show (office.wrappers.modify id change)[other]? = _ from changed other]
    unfold Office.stake
    split
    · rename_i here
      subst here
      cases found : office.wrappers[id]? with
      | none => rfl
      | some wrapper => exact congrArg some (same wrapper found)
    · rfl
  · show (Action.changeWrapper id change office).2.alive other = true
    unfold Office.alive at lives ⊢
    rw [changed, if_neg fun same => different (List.mem_singleton.mpr same.symm)]
    exact lives

theorem undisturbed_withdraw (lender : Nat) (id : WrapperId) :
    Undisturbed [id] office (Action.withdraw lender id office).2 := by
  have changed := office.lender_changeRoster lender 0 fun roster alive => roster.withdraw alive id
  have left : ∀ other, other ∈ ((Action.withdraw lender id office).2.lender 0).roster.entries →
      other ∈ (office.lender 0).roster.entries := by
    intro other member
    rw [Action.withdraw, changed] at member
    split at member
    · exact (List.filter_sublist.trans List.filter_sublist).subset member
    · exact member
  refine
    { Undisturbed.refl [id] office with
      size := Array.size_modify
      roster := fun other member => Or.inl (left other member)
      attends := fun other different attended => ⟨attended.1, ?_⟩
      loans := ?_ }
  · rw [Action.withdraw, changed]
    split
    · exact List.mem_filter.mpr ⟨List.mem_filter.mpr ⟨attended.2, attended.1⟩,
        bne_iff_ne.mpr fun same => different (List.mem_singleton.mpr same)⟩
    · exact attended.2
  · rw [Action.withdraw, changed]
    split <;> rfl

theorem undisturbed_halt (ids : List WrapperId) (sensor : Nat) :
    ∃ after, Action.halt sensor office = (.ok (), after) ∧ Undisturbed ids office after := by
  have found : Action.sensor sensor office = (.ok (office.sensors.getD sensor default), office) :=
    rfl
  unfold Action.halt
  rw [Action.run_bind_of_ok found]
  by_cases running : (office.sensors.getD sensor default).running = true
  · rw [if_pos running]
    refine ⟨_, rfl, office.undisturbed_beside ids rfl rfl rfl ?_
      (office.journal.dealings_cons rfl)⟩
    show ((office.sensors.modify sensor fun sensor => { sensor with running := false }).getD 0
      default).connected = (office.sensors.getD 0 default).connected
    rw [Array.getD_eq_getD_getElem?, Array.getD_eq_getD_getElem?, Array.getElem?_modify]
    split
    · cases office.sensors[0]? <;> rfl
    · rfl
  · rw [if_neg running]
    exact ⟨office, rfl, Undisturbed.refl ids office⟩

/-- Reaching for a range touches no frame. -/
theorem reads_undisturbed : Reads (Undisturbed []) where
  toChained := Undisturbed.chained []
  noted office _ := office.undisturbed_log [] rfl
  reach office index address size := by
    have books := Desk.overlooks_books.reach (office.desk index) address size
    exact office.undisturbed_withDesk index
      (congrArg (·.2.1) (Desk.standing_arena.reach (office.desk index) address size))
      (Desk.of_books books).1 (Desk.overlooks_dealings.reach (office.desk index) address size)
  letGo office index reach := by
    cases reach with
    | inPlace view =>
      have books := Desk.overlooks_books.closeView (office.desk index) view
      exact office.undisturbed_withDesk index
        (congrArg (·.2.1) (Desk.standing_arena.closeView (office.desk index) view))
        (Desk.of_books books).1 (Desk.overlooks_dealings.closeView (office.desk index) view)
    | copied replica =>
      have books : ((office.desk index).endLease replica).books = (office.desk index).books :=
        Desk.overlooks_books.endLease (office.desk index) fun _ _ _ => rfl
      exact office.undisturbed_withDesk index
        (congrArg (·.2.1) ((office.desk index).standing_endLease replica))
        (Desk.of_books books).1 ((office.desk index).dealings_endLease replica)

/-- A wrapper of the lender has come about and been enrolled. -/
structure Spawned (duty : Duty) (before after : Office) : Prop where
  size : after.lenders.size = before.lenders.size
  served : after.served = before.served
  connected : after.connected 0 = before.connected 0
  grown : after.wrappers.size = before.wrappers.size + 1
  stakes : ∀ id, after.stake id =
    if id = before.wrappers.size then some (0, duty, false) else before.stake id
  roster : ∀ id ∈ (after.lender 0).roster.entries,
    id ∈ (before.lender 0).roster.entries ∨ id = before.wrappers.size
  attends : ∀ id, before.Attended id → after.Attended id
  enrolled : 0 < before.lenders.size → after.Attended before.wrappers.size
  loans : (after.lender 0).loans = (before.lender 0).loans
  dealings : after.journal.dealings = before.journal.dealings

theorem spawned (name : String) (duty : Duty) :
    Spawned duty office (Action.enroll 0 office.wrappers.size
      (Action.makeWrapper name 0 duty office).2).2 := by
  have made := office.getElem?_makeWrapper name 0 duty
  generalize grown : (Action.makeWrapper name 0 duty office).2 = after at made
  have size : after.wrappers.size = office.wrappers.size + 1 := by
    rw [← grown]
    exact Array.size_push ..
  have same : after.lenders = office.lenders ∧ after.served = office.served ∧
      after.sensors = office.sensors ∧ after.journal = office.journal := by
    rw [← grown]
    exact ⟨rfl, rfl, rfl, rfl⟩
  have lender : after.lender 0 = office.lender 0 := by
    unfold Office.lender
    rw [same.1]
  have changed := after.lender_changeRoster 0 0 fun roster alive =>
    roster.enroll alive office.wrappers.size
  have alive : ∀ id, office.alive id = true ∨ id = office.wrappers.size →
      after.alive id = true := by
    intro id lives
    unfold Office.alive at lives ⊢
    rw [made]
    by_cases new : id = office.wrappers.size
    · rw [if_pos new]
      rfl
    · rw [if_neg new]
      exact lives.resolve_right new
  have entered : ∀ id, 0 < office.lenders.size → after.alive id = true →
      id ∈ (office.lender 0).roster.entries ∨ id = office.wrappers.size →
        (Action.enroll 0 office.wrappers.size after).2.Attended id := by
    intro id inRange lives listed
    refine ⟨lives, ?_⟩
    rw [Action.enroll, changed, if_pos ⟨rfl, same.1 ▸ inRange⟩, lender]
    exact Roster.mem_enroll_of_alive lives listed
  refine
    { size := Array.size_modify.trans (congrArg Array.size same.1)
      served := same.2.1
      connected := congrArg (fun sensors => (sensors.getD 0 default).connected) same.2.2.1
      grown := size
      stakes := fun id => ?_
      roster := fun id member => ?_
      attends := fun id attended => ?_
      enrolled := fun inRange => entered _ inRange (alive _ (Or.inr rfl)) (Or.inr rfl)
      loans := ?_
      dealings := congrArg Journal.dealings same.2.2.2 }
  · show after.stake id = _
    unfold Office.stake
    rw [made]
    split
    · show some (0, duty, duty.isCapture && false) = _
      rw [Bool.and_false]
    · rfl
  · rw [Action.enroll, changed] at member
    split at member
    · rw [← lender]
      exact Roster.of_mem_enroll member
    · exact Or.inl (lender ▸ member)
  · by_cases inRange : 0 < office.lenders.size
    · exact entered id inRange (alive id (Or.inl attended.1)) (Or.inl attended.2)
    · have listed := attended.2
      rw [Office.lender_of_beyond (Nat.le_of_not_lt inRange)] at listed
      cases listed
  · rw [Action.enroll, changed, ← lender]
    split <;> rfl

/-- A new wrapper that holds nothing is no capture. -/
theorem undisturbed_spawn (name : String) {duty : Duty} (aside : duty.isAside = true) :
    Undisturbed [] office (Action.enroll 0 office.wrappers.size
      (Action.makeWrapper name 0 duty office).2).2 := by
  have spawned := office.spawned name duty
  generalize (Action.enroll 0 office.wrappers.size
    (Action.makeWrapper name 0 duty office).2).2 = after at spawned
  refine
    { size := spawned.size
      served := spawned.served
      connected := spawned.connected
      grown := spawned.grown ▸ Nat.le_succ _
      stakes := fun id inside => ?_
      fresh := fun id beyond stake has => ?_
      roster := fun id member => (spawned.roster id member).imp_right fun new =>
        Nat.le_of_eq new.symm
      attends := fun id _ => spawned.attends id
      loans := spawned.loans
      dealings := spawned.dealings }
  · rw [spawned.stakes, if_neg (Nat.ne_of_lt inside)]
  · rw [spawned.stakes] at has
    split at has
    · cases has
      exact aside
    · cases has.symm.trans (Undisturbed.none_of_beyond beyond)

end Small

end Office

end MemoryLending
