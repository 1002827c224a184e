/-
This file says what a soak run can rely on between any two things that it does. Besides the session,
the roster names the captures that are kept, in order, and nobody else; these captures have the
frames that are on loan; nobody holds a replica; and it is known how many blocks the reserve has
been asked for. Taking a frame, summing up a window of it, reading a buffer of the sensor and
letting go of the capture all come to their end and keep this. The window of a frame is read in
place, and the buffer through a lease, because no loan meets the premises of the sensor.
-/

import MemoryLending.Proofs.Crew
import MemoryLending.Proofs.Foreign
import MemoryLending.Proofs.Premises
import MemoryLending.Proofs.Studio

namespace MemoryLending

/-! ### A window of a frame on loan -/

namespace Action

theorem sum_of_lt {left right : Nat} (fits : left + right < Word.limit) (office : Office) :
    sum left right office = (.ok (left + right), office) := by
  unfold sum
  rw [Word.add?_of_lt fits]
  rfl

theorem product_of_lt {left right : Nat} (fits : left * right < Word.limit) (office : Office) :
    product left right office = (.ok (left * right), office) := by
  unfold product Word.mul?
  rw [if_pos fits]
  rfl

/-- Adds up what is shown of a frame, and leaves a record if it is not read in place. -/
def addUp (frame : Frame) (reach : Reach) (bytes : Bytes) : Action Nat := do
  if !reach.isInPlace then log (.frameNotOwned frame.address)
  return bytes.sum

section Held

variable {office : Office} {id : WrapperId} {name : String} {lender sensor holders : Nat}
  {frame : Frame}
  (found : office.wrappers[id]? =
    some ⟨name, lender, .capture sensor (some frame), ⟨false⟩, holders⟩)

include found

theorem heldFrame_of_found : heldFrame id office = (.ok (lender, frame), office) := by
  unfold heldFrame
  rw [run_get_bind, found]
  rfl

variable {offset length : Nat} (inside : offset + length ≤ frame.length)
  (fits : frame.address + frame.length < Word.limit)

include inside fits

/-- A window that lies in its frame is reached. -/
theorem windowSum_eq_reading :
    windowSum id offset length office =
      reading lender (frame.address + offset) length (addUp frame) office := by
  have summed : offset + length < Word.limit := by omega
  have placed : frame.address + offset < Word.limit := by omega
  unfold windowSum
  rw [run_bind_of_ok (heldFrame_of_found found)]
  dsimp only
  rw [run_bind_of_ok (sum_of_lt summed office), if_neg (Nat.not_lt_of_le inside),
    run_bind_of_ok (sum_of_lt placed office)]
  rfl

end Held

end Action

namespace Desk

/-- A view that has just been opened on a loan is closed again, and nothing has happened. -/
theorem closeView_of_opened (desk : Desk) {loan : Loan}
    (member : loan ∈ desk.lender.loans.toList) (offset length : Nat) :
    (desk.withViews (View.ofLoan loan offset length :: desk.lender.views)).closeView
      (View.ofLoan loan offset length) = desk := by
  have pinned : desk.lender.pins loan.block.id = true :=
    Lender.pins_iff.mpr ⟨loan.block, Or.inl ⟨loan, member, rfl⟩, rfl⟩
  unfold closeView
  rw [if_pos (show View.ofLoan loan offset length ∈ (desk.withViews
    (View.ofLoan loan offset length :: desk.lender.views)).lender.views from List.mem_cons_self)]
  have closed : withViews desk ((View.ofLoan loan offset length :: desk.lender.views).erase
      (View.ofLoan loan offset length)) = desk := by
    rw [List.erase_cons_head]
    rfl
  show unpin (withViews desk ((View.ofLoan loan offset length :: desk.lender.views).erase
    (View.ofLoan loan offset length))) loan.block = desk
  rw [closed]
  exact if_pos pinned

end Desk

namespace Office

/-- Only the last work at a desk is seen. -/
theorem withDesk_withDesk (office : Office) (index : Nat) (first second : Desk) :
    (office.withDesk index first).withDesk index second = office.withDesk index second :=
  congrArg (fun lenders => { office.withDesk index second with lenders })
    (Array.setIfInBounds_setIfInBounds ..)

section Lent

variable {office : Office} {rented : Nat → List Block} (orderly : office.Orderly rented)
  {lender : Nat} {frame : Frame} (lends : office.Lends lender frame)

include orderly lends

/-- A frame on loan begins after zero and ends in memory. -/
theorem Orderly.frame_bounds :
    frame.address ≠ 0 ∧ frame.address + frame.length < Word.limit := by
  obtain ⟨loan, member, base, -, length⟩ := lends
  obtain ⟨record, housed⟩ := orderly lender
    (@inRange_of_live office lender loan.base loan.token ⟨loan, member, rfl, rfl⟩)
  have holds : (office.tradeOf lender (rented lender) record).Holds loan.block :=
    ⟨.pinned, Or.inl ⟨loan, member, rfl⟩⟩
  -- a loan of no bytes has a block too, of one byte
  obtain ⟨within, solid⟩ := housed.tended.roomy.spaced.lies loan member
  have fits := housed.tended.accounted.fits loan.block holds
  have present := housed.present loan.block holds solid
  unfold Loan.base at base
  exact ⟨base ▸ present, by omega⟩

/-- A window that begins before the end of a frame on loan lies in the loan. -/
theorem Orderly.find?_window {offset length : Nat} (inside : offset + length ≤ frame.length)
    (starts : offset < frame.length) :
    ∃ loan ∈ (office.lender lender).loans.toList,
      (loan.base = frame.address ∧ loan.token = frame.context) ∧
      (office.lender lender).loans.find? (frame.address + offset) length = some (loan, offset) := by
  obtain ⟨loan, member, base, token, long⟩ := lends
  have sound := orderly.sound
    (@inRange_of_live office lender loan.base loan.token ⟨loan, member, rfl, rfl⟩)
  exact ⟨loan, member, ⟨base, token⟩, (LoanBook.find?_eq_some_iff sound).mpr
    ⟨member, by omega, by omega, by omega⟩⟩

/-- A window with bytes of a frame on loan is reached in place. -/
theorem Orderly.reach_window {offset length : Nat} (inside : offset + length ≤ frame.length)
    (solid : length ≠ 0) :
    ∃ loan ∈ (office.lender lender).loans.toList,
      (loan.base = frame.address ∧ loan.token = frame.context) ∧
      (office.desk lender).reach (frame.address + offset) length =
        (.ok (.inPlace (View.ofLoan loan offset length)),
          (office.desk lender).withViews
            (View.ofLoan loan offset length :: (office.desk lender).lender.views)) := by
  have bounds := orderly.frame_bounds lends
  obtain ⟨loan, member, same, found⟩ := orderly.find?_window lends inside (by omega)
  exact ⟨loan, member, same, (office.desk lender).reach_of_found (by omega) found⟩

section Sum

variable {id : WrapperId} {name : String} {sensor holders : Nat}
  (found : office.wrappers[id]? =
    some ⟨name, lender, .capture sensor (some frame), ⟨false⟩, holders⟩)
  {offset length : Nat} (inside : offset + length ≤ frame.length)

include found inside

/-- A window that lies in some loan is summed up in place, and nothing has happened. -/
theorem Orderly.windowSum_of_find? {loan : Loan} {inset : Nat}
    (contains : (office.lender lender).loans.find? (frame.address + offset) length =
      some (loan, inset)) :
    Action.windowSum id offset length office =
      (.ok (office.arena.read (frame.address + offset) length).sum, office) := by
  obtain ⟨present, ends⟩ := orderly.frame_bounds lends
  obtain ⟨frameLoan, entered, -⟩ := lends
  have inRange :=
    @inRange_of_live office lender frameLoan.base frameLoan.token ⟨frameLoan, entered, rfl, rfl⟩
  obtain ⟨member, place, -, -⟩ :=
    (LoanBook.find?_eq_some_iff (orderly.sound inRange)).mp contains
  have reached := (office.desk lender).reach_of_found (by omega) contains
  rw [Action.windowSum_eq_reading found inside ends]
  refine (Action.reading_of_ok reached rfl).trans ?_
  -- the view that is opened is closed again, and nobody has been at the desk in between
  rw [desk_withDesk inRange, withDesk_withDesk, ← place]
  show (_, office.withDesk lender (Desk.closeView _ _)) = _
  rw [Desk.closeView_of_opened (office.desk lender) member, withDesk_desk]
  rfl

/-- The window of a capture that has its frame is summed up, and nothing has happened. -/
theorem Orderly.windowSum_eq (solid : length ≠ 0) :
    Action.windowSum id offset length office =
      (.ok (office.arena.read (frame.address + offset) length).sum, office) := by
  obtain ⟨loan, -, -, contains⟩ := orderly.find?_window lends inside (by omega)
  exact orderly.windowSum_of_find? lends found inside contains

end Sum

end Lent

/-! ### What a soak run keeps -/

/-- Where nobody holds a replica, routine changes ask the reserve for nothing. -/
theorem routine_resting (asked : Nat) :
    Routine fun before after =>
      (before.lender 0).Resting asked → (after.lender 0).Resting asked where
  refl _ := id
  trans first second := second ∘ first
  journal _ _ := id
  sensors _ _ := id
  hosts _ _ := id
  wrappers _ _ := id
  roster office lender change resting := by
    have changed := office.lender_changeRoster lender 0 fun roster _ => change roster
    show ((Action.changeRoster lender (fun roster _ => change roster) office).2.lender 0).Resting _
    rw [changed]
    split
    · exact ⟨resting.entries, resting.handles, resting.leases, resting.balances⟩
    · exact resting
  reclaim office lender address token resting := by
    rw [lender_withDesk]
    split
    · rename_i here
      obtain ⟨rfl, -⟩ := here
      exact @Desk.resting_reclaim (office.desk 0) asked resting address token
    · exact resting
  endLease office lender replica resting := by
    rw [lender_withDesk]
    split
    · rename_i here
      obtain ⟨rfl, -⟩ := here
      have nobody : replica ∉ (office.desk 0).lender.replicas.leases := fun held => by
        rw [show (office.desk 0).lender.replicas.leases = [] from resting.leases] at held
        cases held
      unfold Desk.endLease
      rw [if_neg nobody]
      exact resting
    · exact resting

/-- A soak run of a sensor with these buffers, while the captures `kept` are kept, the latest
first, and the reserve has been asked for `asked` blocks. -/
structure Soaking (office : Office) (buffers : List Block) (frameLength : Nat)
    (kept : List WrapperId) (asked : Nat) : Prop where
  orderly : office.Orderly fun _ => Sensor.premises buffers
  captured : ∃ captures, office.Captured captures ∧
    ∀ capture ∈ captures, office.released capture.1 = false → capture.1 ∈ kept
  crew : office.Crew (0 :: kept.reverse)
  resting : (office.lender 0).Resting asked
  sensors : office.sensors = #[⟨true, frameLength, buffers, true⟩]
  served : office.served = some 0
  sweeps : office.sweepsAtExit = true

namespace Soaking

variable {office : Office} {buffers : List Block} {frameLength : Nat} {kept : List WrapperId}
  {asked : Nat}

section Still

variable (soaking : office.Soaking buffers frameLength kept asked)

include soaking

theorem inRange : 0 < office.lenders.size := by
  obtain ⟨captures, captured, -⟩ := soaking.captured
  exact captured.size ▸ Nat.one_pos

theorem sensor_eq : office.sensors.getD 0 default = ⟨true, frameLength, buffers, true⟩ := by
  rw [soaking.sensors]
  rfl

/-- Work that touches neither frames nor wrappers. -/
theorem still {after : Office} {ids : List WrapperId} {asked' : Nat}
    (undisturbed : Undisturbed ids office after) (listing : after.listing = office.listing)
    (orderly : after.Orderly fun _ => Sensor.premises buffers)
    (resting : (after.lender 0).Resting asked') (sensors : after.sensors = office.sensors)
    (sweeps : after.sweepsAtExit = office.sweepsAtExit) :
    after.Soaking buffers frameLength kept asked' where
  orderly := orderly
  captured := by
    obtain ⟨captures, captured, left⟩ := soaking.captured
    refine ⟨captures, undisturbed.captured captured, fun capture member unreleased => ?_⟩
    exact left capture member ((released_of_listing listing capture.1).symm.trans unreleased)
  crew := soaking.crew.of_listing listing
  resting := resting
  sensors := sensors.trans soaking.sensors
  served := undisturbed.served.trans soaking.served
  sweeps := sweeps.trans soaking.sweeps

theorem log (event : Event) (idle : event.isDeal = false) :
    (Action.log event office).2.Soaking buffers frameLength kept asked :=
  soaking.still (office.undisturbed_log [] idle) rfl
    ((routine_upholds.log event office).2 _ soaking.orderly) soaking.resting rfl rfl

end Still

end Soaking

/-! ### Somebody lets go of a capture -/

/-- The office in which one fewer holds a wrapper. -/
def dropped (office : Office) (id : WrapperId) : Office :=
  (Action.changeWrapper id (fun wrapper => { wrapper with holders := wrapper.holders - 1 })
    office).2

theorem getElem?_dropped (office : Office) (id other : WrapperId) :
    (office.dropped id).wrappers[other]? =
      if id = other then office.wrappers[other]?.map fun wrapper =>
        { wrapper with holders := wrapper.holders - 1 }
      else office.wrappers[other]? :=
  office.getElem?_changeWrapper id other _

theorem undisturbed_dropped (office : Office) (id : WrapperId) :
    Undisturbed [id] office (office.dropped id) :=
  office.undisturbed_changeWrapper id fun _ _ => rfl

/-- A wrapper that has not been released stands aside, or it is a capture that has its frame. -/
theorem Captured.aside_or_filled {office : Office} {captures : List (WrapperId × Frame)}
    (captured : office.Captured captures) {id : WrapperId} {name : String} {lender : Nat}
    {duty : Duty} {holders : Nat}
    (found : office.wrappers[id]? = some ⟨name, lender, duty, ⟨false⟩, holders⟩) :
    duty.isAside = true ∨
      ∃ frame, (id, frame) ∈ captures ∧ lender = 0 ∧ duty = .capture 0 (some frame) := by
  have held : (duty.isCapture && false) = false := Bool.and_false _
  have stake : office.stake id = some (lender, duty, false) := by
    unfold stake
    rw [found, Option.map_some, Wrapper.stake, held]
  rcases captured.others id _ stake with aside | ⟨frame, member⟩
  · exact Or.inl aside
  · cases stake.symm.trans ((captured.filled_iff member).mpr (released_of_found found))
    exact Or.inr ⟨frame, member, rfl, rfl⟩

end Office

/-! ### A frame is taken -/

namespace Action

/-- Takes a frame and makes a capture of it. -/
def takeFrame (sequence : Nat) : Action (Frame × WrapperId) := do
  let frame ← grab 0 (UInt64.ofNat sequence)
  return (frame, ← makeCapture 0 0 frame)

end Action

namespace Office

/-- Work that asks the reserve once and leaves the wrappers alone. -/
structure Asked (asked : Nat) (before after : Office) : Prop where
  size : after.lenders.size = before.lenders.size
  listing : after.listing = before.listing
  resting : (after.lender 0).Resting (asked + 1)
  sensors : after.sensors = before.sensors
  served : after.served = before.served
  sweeps : after.sweepsAtExit = before.sweepsAtExit

namespace Soaking

variable {office : Office} {buffers : List Block} {frameLength : Nat} {kept : List WrapperId}
  {asked : Nat}

/-- The frame of a capture that has just been made. -/
structure Fresh (office : Office) (id : WrapperId) (frame : Frame) (frameLength : Nat) : Prop where
  found : office.wrappers[id]? = some ⟨"", 0, .capture 0 (some frame), ReleaseFlag.held, 1⟩
  length : frame.length = frameLength
  lends : office.Lends 0 frame

section Taking

variable (soaking : office.Soaking buffers frameLength kept asked)
  (short : frameLength ≤ Sensor.longestFrame)
  (houses : office.Houses (fun _ => Sensor.premises buffers) frameLength)

include soaking

theorem frameLength_eq : Action.frameLength office 0 = frameLength :=
  congrArg Sensor.frameLength soaking.sensor_eq

include short

theorem asks : office.asks 0 = true :=
  asks_iff.mpr ⟨congrArg Sensor.running soaking.sensor_eq,
    congrArg Sensor.connected soaking.sensor_eq, soaking.frameLength_eq.trans_le short⟩

include houses

theorem grab (solid : frameLength ≠ 0) (sequence : UInt64) :
    ∃ frame between, Action.grab 0 sequence office = (.ok frame, between) ∧
      frame.length = frameLength ∧ Asked asked office between := by
  have long := soaking.frameLength_eq
  rw [← long] at houses
  obtain ⟨block, desk, lent, -, grabbed⟩ :=
    soaking.orderly.grab soaking.served soaking.inRange (soaking.asks short) houses sequence
  have standing := (office.desk 0).standing_lend (Action.frameLength office 0)
  have resting := @Desk.resting_lend (office.desk 0) asked soaking.resting _
    (long.trans_ne solid)
  rw [lent] at standing resting
  have lender : (office.withDesk 0 desk).lender 0 = desk.lender := by
    rw [lender_withDesk]
    exact if_pos ⟨rfl, soaking.inRange⟩
  exact ⟨_, _, grabbed, long,
    { size := office.size_withDesk 0 desk
      listing := office.listing_withDesk 0 standing
      resting := lender ▸ resting
      sensors := rfl
      served := rfl
      sweeps := rfl }⟩

/-- A frame is taken and captured, and the capture joins those that are kept. -/
theorem takeFrame (solid : frameLength ≠ 0) (sequence : Nat) :
    ∃ frame taken, Action.takeFrame sequence office = (.ok (frame, office.wrappers.size), taken) ∧
      taken.Soaking buffers frameLength (office.wrappers.size :: kept) (asked + 1) ∧
        Fresh taken office.wrappers.size frame frameLength := by
  obtain ⟨captures, captured, left⟩ := soaking.captured
  obtain ⟨frame, between, grabbed, length, drawn⟩ :=
    soaking.grab short houses solid (UInt64.ofNat sequence)
  have size : 0 < between.lenders.size := soaking.inRange.trans_eq drawn.size.symm
  have wrappers : between.wrappers = office.wrappers := congrArg Prod.fst drawn.listing
  obtain ⟨_, _, taken, grabbed', made, capture, orderly⟩ :=
    captured.make soaking.orderly (soaking.asks short) (soaking.frameLength_eq ▸ houses)
      (UInt64.ofNat sequence)
  -- the frame that was lent and the frame that is captured are the same
  cases grabbed.symm.trans grabbed'
  have enrolled : taken = (Action.enroll 0 between.wrappers.size
      (Action.makeWrapper "" 0 (.capture 0 (some frame)) between).2).2 :=
    (congrArg Prod.snd made).symm
  refine ⟨frame, taken, ?_, ?_, ?_⟩
  · unfold Action.takeFrame
    rw [Action.run_bind_of_ok grabbed, Action.run_bind_of_ok made]
    rfl
  · refine
      { orderly := orderly
        captured := ⟨_, capture.captured, fun other member unreleased => ?_⟩
        crew := ?_
        resting := ?_
        sensors := ?_
        served := ?_
        sweeps := ?_ }
    · rcases List.mem_cons.mp member with rfl | member
      · exact List.mem_cons_self
      · exact List.mem_cons_of_mem _
          (left other member ((capture.others other member).symm.trans unreleased))
    · have crew := (soaking.crew.of_listing drawn.listing).spawn size "" (.capture 0 (some frame))
      rw [← enrolled, wrappers] at crew
      rw [List.reverse_cons]
      exact crew
    · rw [enrolled]
      exact (routine_resting (asked + 1)).enroll 0 _ _
        ((routine_resting (asked + 1)).makeWrapper "" 0 _ between drawn.resting)
    · rw [enrolled]
      exact drawn.sensors.trans soaking.sensors
    · rw [enrolled]
      exact drawn.served.trans soaking.served
    · rw [enrolled]
      exact drawn.sweeps.trans soaking.sweeps
  · refine ⟨?_, length, capture.captured.lends List.mem_cons_self capture.unreleased⟩
    have here := between.getElem?_makeWrapper "" 0 (.capture 0 (some frame)) between.wrappers.size
    rw [if_pos rfl, wrappers] at here
    rw [enrolled, wrappers]
    exact here

end Taking

/-! ### A buffer of the sensor is read -/

section Foreign

variable (soaking : office.Soaking buffers frameLength kept asked) {buffer : Block}
  (member : buffer ∈ buffers)

include soaking member

/-- No address in a buffer of the sensor belongs to a loan. -/
theorem find?_eq_none {address : Nat} (begins : buffer.address ≤ address)
    (inside : address < buffer.address + buffer.capacity) (size : Nat) :
    (office.lender 0).loans.find? address size = none := by
  obtain ⟨record, housed⟩ := soaking.orderly 0 soaking.inRange
  refine Option.eq_none_iff_forall_ne_some.mpr fun ⟨loan, offset⟩ found => ?_
  obtain ⟨lent, place, before, -⟩ :=
    (LoanBook.find?_eq_some_iff (soaking.orderly.sound soaking.inRange)).mp found
  let trade := office.tradeOf 0 (Sensor.premises buffers) record
  -- the block of the loan is pinned and the buffer is rented, so they are two blocks
  have pinned : trade.Stores .pinned loan.block := Or.inl ⟨loan, lent, rfl⟩
  have rented : trade.Stores .rented { buffer with pooled := true } :=
    List.mem_map_of_mem member
  have custody := housed.tended.roomy.custody
  have within := housed.tended.accounted.within loan lent
  have real : loan.block.id ≠ 0 := fun none => by
    rw [custody.named.empty loan.block ⟨.pinned, pinned⟩ none] at within
    exact Nat.not_lt_zero offset (Nat.lt_of_lt_of_le before within)
  have apart := housed.tended.roomy.spaced.spread loan.block { buffer with pooled := true }
    ⟨.pinned, pinned⟩ ⟨.rented, rented⟩ fun same => by
      cases custody.place_eq pinned rented real (congrArg Block.id same)
  unfold Loan.base at place
  have lies : address ∈ loan.block.range := ⟨by omega, by omega⟩
  exact Set.disjoint_left.mp apart lies ⟨begins, inside⟩

variable {sequence : Nat} (chosen : buffers.getD (sequence % buffers.length) default = buffer)
  (houses : (office.tradeOf 0 (Sensor.premises buffers) []).Houses
    ⟨.reach buffer.address buffer.capacity, office.arena.nextAddress⟩)

include chosen houses

/-- A buffer of the sensor is read through a lease, and nobody holds a replica afterwards. -/
theorem readForeign (solid : buffer.capacity ≠ 0) (short : buffer.capacity ≤ Word.longestBlock) :
    ∃ byte after, Action.readForeign 0 0 sequence office = (.ok byte, after) ∧
      after.Soaking buffers frameLength kept (asked + 1) ∧ after.wrappers = office.wrappers := by
  have inRange := soaking.inRange
  have present : buffer.address ≠ 0 := by
    obtain ⟨record, housed⟩ := soaking.orderly 0 inRange
    have rented : { buffer with pooled := true } ∈ Sensor.premises buffers :=
      List.mem_map_of_mem member
    exact housed.present { buffer with pooled := true } ⟨.rented, rented⟩ solid
  have missing := soaking.find?_eq_none member (Nat.le_refl _) (by omega) buffer.capacity
  obtain ⟨replica, leased, reached, size, rested⟩ :=
    @Desk.resting_lease (office.desk 0) asked soaking.resting _ _ present missing solid short
  have owned : Action.ownBuffer 0 sequence office = (.ok buffer, office) := by
    have found : Action.sensor 0 office = (.ok (office.sensors.getD 0 default), office) := rfl
    unfold Action.ownBuffer
    rw [Action.run_bind_of_ok found, soaking.sensor_eq]
    dsimp only
    rw [if_neg (by simp [List.ne_nil_of_mem member]), chosen]
    rfl
  obtain ⟨byte, read⟩ := Action.readForeign_of_leased inRange owned reached (size.trans_ne solid)
  have reach := reads_undisturbed.reach office 0 buffer.address buffer.capacity
  have orderly := soaking.orderly.reached houses
  have standing := Desk.standing_arena.reach (office.desk 0) buffer.address buffer.capacity
  rw [reached] at reach orderly standing
  dsimp only at reach orderly
  have ended := reads_undisturbed.letGo (office.withDesk 0 leased) 0 (.copied replica)
  have upheld := (upholds_letGo (office.withDesk 0 leased) 0 (.copied replica)).2 _ orderly
  have here := desk_withDesk inRange leased
  rw [here] at ended upheld
  have lender := lender_withDesk (office.withDesk 0 leased) 0 0 (leased.endLease replica)
  rw [if_pos ⟨rfl, inRange.trans_eq (office.size_withDesk 0 leased).symm⟩] at lender
  refine ⟨byte, _, read, soaking.still (reach.trans ended) ?_ upheld ?_ rfl rfl, rfl⟩
  · rw [listing_withDesk _ 0 ((leased.standing_endLease replica).trans
      (congrArg Desk.standing here).symm), listing_withDesk _ 0 standing]
  · rw [lender]
    exact rested

end Foreign

/-! ### A capture is let go of -/

section LetGo

variable {id : WrapperId} {frame : Frame}
  (soaking : office.Soaking buffers frameLength (id :: kept) asked)
  (found : office.wrappers[id]? = some ⟨"", 0, .capture 0 (some frame), ReleaseFlag.held, 1⟩)

include soaking found

/-- Once the latest capture has lost its holder, everybody else on the roster is as before. -/
theorem crew_dropped {desk : Desk} (roster : desk.lender.roster = (office.lender 0).roster) :
    ((office.dropped id).returned id desk).Crew (0 :: kept.reverse) := by
  have entries := soaking.crew.entries
  have distinct := soaking.crew.distinct
  have changed := office.getElem?_dropped id
  rw [List.reverse_cons, ← List.cons_append] at entries distinct
  have different : ∀ other ∈ 0 :: kept.reverse, id ≠ other := fun other member same =>
    (List.nodup_append.mp distinct).2.2 other member id (List.mem_singleton_self id) same.symm
  have member : ∀ other ∈ 0 :: kept.reverse, other ∈ 0 :: (id :: kept).reverse :=
    fun other member => by
      rw [List.reverse_cons, ← List.cons_append]
      exact List.mem_append_left _ member
  have same : ∀ other ∈ 0 :: kept.reverse,
      (office.dropped id).wrappers[other]? = office.wrappers[other]? := fun other here =>
    (changed other).trans (if_neg (different other here))
  refine Crew.returned soaking.inRange entries distinct (fun other here => ?_)
    (fun other here => ?_) (by rw [changed, if_pos rfl, found]; rfl) roster
  · rw [← soaking.crew.alive other (member other here)]
    unfold Office.alive
    rw [same other here]
  · rw [← soaking.crew.unreleased other (member other here)]
    unfold Office.released
    rw [same other here]

/-- The latest capture that is kept hands its frame back when it is let go of, and leaves. -/
theorem letGo :
    ∃ after, Action.letGo id office = (.ok (), after) ∧
      after.Soaking buffers frameLength kept asked := by
  obtain ⟨captures, whole, left⟩ := soaking.captured
  have inRange := soaking.inRange
  have fewer := office.undisturbed_dropped id
  have captured := fewer.captured whole
  have here : (office.dropped id).wrappers[id]? =
      some ⟨"", 0, .capture 0 (some frame), ⟨false⟩, 0⟩ := by
    rw [getElem?_dropped, if_pos rfl, found]
    rfl
  have unreleased := released_of_found here
  have member : (id, frame) ∈ captures := by
    rcases captured.aside_or_filled here with aside | ⟨_, member, -, same⟩
    · cases aside
    · cases same
      exact member
  have orderly := (routine_upholds.changeWrapper id (fun wrapper =>
    { wrapper with holders := wrapper.holders - 1 }) office).2 _ soaking.orderly
  obtain ⟨desk, reclaimed, handed⟩ := captured.reclaim orderly member here
  have connected := captured.connected (List.ne_nil_of_mem member)
  have returned := retireWithin_of_filled here connected (captured.hooked connected) reclaimed
    (2 * office.wrappers.size)
  have done : Action.letGo id office = (.ok (), (office.dropped id).returned id desk) := by
    rw [Action.letGo_of_last found rfl rfl]
    exact (Action.run_bind_of_ok returned).trans rfl
  have upheld := (routine_upholds.letGo id office).2 _ soaking.orderly
  rw [done] at upheld
  have standing := Desk.standing_loans.reclaim (office.desk 0) frame.address frame.context
  rw [show (office.desk 0).reclaim frame.address frame.context = (.ok (), desk) from reclaimed]
    at standing
  have resting := (routine_resting asked).letGo id office soaking.resting
  rw [done] at resting
  refine ⟨_, done,
    { orderly := upheld
      captured :=
        ⟨captures, handed.captured captured member unreleased, fun capture there out => ?_⟩
      crew := soaking.crew_dropped found (congrArg (·.2.1) standing)
      resting := resting
      sensors := soaking.sensors
      served := soaking.served
      sweeps := soaking.sweeps }⟩
  have different : capture.1 ≠ id := fun same => by
    rw [same, released_of_stake handed.emptied.1] at out
    cases out
  have before := captured.released_of_same there (handed.stakes capture.1 different)
  rw [fewer.released whole there] at before
  exact (List.mem_cons.mp (left capture there (before.symm.trans out))).resolve_left different

end LetGo

end Soaking

end Office

end MemoryLending
