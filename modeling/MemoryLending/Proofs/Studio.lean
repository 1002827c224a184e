/-
This file runs a studio: one lender, one sensor that has its callbacks, and captures of frames.
Captures are made, summed up, held, told to retire and let go of, other wrappers are enrolled, the
session stops the sensor, and there are sweeps, in any order. The frame of each capture is handed
back through the free callback once, when the capture is first told to retire, has lost its last
holder, or is swept; the loans that are out are those of the captures that have not been released.
-/

import MemoryLending.Proofs.Handover

namespace MemoryLending

/-! ### Taking a frame -/

namespace Office

/-- The office when the heap has announced places. -/
def ready (office : Office) (places : List Nat) : Office :=
  { office with arena := office.arena.announce places }

/-- Whether a sensor asks for memory when it is to take a frame. -/
def asks (office : Office) (index : Nat) : Bool :=
  let sensor := office.sensors.getD index default
  sensor.running && sensor.connected && decide (sensor.frameLength ≤ Sensor.longestFrame)

theorem asks_iff {office : Office} {index : Nat} :
    office.asks index = true ↔ (office.sensors.getD index default).running = true ∧
      office.connected index = true ∧ Action.frameLength office index ≤ Sensor.longestFrame := by
  unfold asks
  rw [Bool.and_eq_true, Bool.and_eq_true, decide_eq_true_iff, and_assoc]
  rfl

end Office

namespace Action

variable {office : Office} {index : Nat}

/-- A sensor that does not ask for memory complains, and nothing happens. -/
theorem grab_of_idle (idle : office.asks index = false) (sequence : UInt64) :
    ∃ complaint, grab index sequence office = (.error (.complained complaint), office) := by
  rw [grab_eq]
  split
  · exact ⟨.sensorStopped, rfl⟩
  split
  · exact ⟨.noCallbacks, rfl⟩
  split
  · exact ⟨.lengthTooLarge, rfl⟩
  · rename_i running connected short
    rw [Bool.not_eq_false] at running connected
    have asks : office.asks index = true :=
      Office.asks_iff.mpr ⟨running, connected, Nat.le_of_not_lt short⟩
    cases idle.symm.trans asks

/-- What a sensor that asks for memory comes to rests on the answer. -/
theorem grab_of_asks (asks : office.asks index = true) (sequence : UInt64) :
    grab index sequence office = received sequence (frameLength office index)
      (answerAllocate (frameLength office index) true office) := by
  obtain ⟨running, connected, short⟩ := Office.asks_iff.mp asks
  unfold Office.connected at connected
  rw [grab_eq, running, connected, if_neg Bool.noConfusion, if_neg Bool.noConfusion,
    if_neg (Nat.not_lt_of_le short)]

/-- A sensor that is granted memory writes a frame into it. -/
theorem grab_of_granted (asks : office.asks index = true) {grant : Grant} {after : Office}
    (asked : answerAllocate (frameLength office index) true office = (.ok (some grant), after))
    (sequence : UInt64) :
    grab index sequence office =
      (.ok ⟨grant.address, grant.context, frameLength office index⟩,
        { after with
          arena := after.arena.write grant.address
            (Sensor.frameContents sequence (frameLength office index)) }) := by
  rw [grab_of_asks asks, asked]
  rfl

end Action

namespace Office

variable {captures : List (WrapperId × Frame)} {rented : Nat → List Block}

/-- A frame has been taken on loan, and nothing else has happened to frames. -/
structure Taken (frame : Frame) (before after : Office) : Prop where
  size : after.lenders.size = before.lenders.size
  served : after.served = before.served
  sensors : after.sensors = before.sensors
  wrappers : after.wrappers = before.wrappers
  roster : (after.lender 0).roster = (before.lender 0).roster
  loans : ((after.lender 0).loans.toList.map Loan.debt).Perm
    (frame.debt :: (before.lender 0).loans.toList.map Loan.debt)
  dealings : after.journal.dealings =
    (frame.lent :: before.journal.grants, before.journal.returns)

theorem Taken.attends {frame : Frame} {before after : Office} (taken : Taken frame before after)
    {id : WrapperId} (attended : before.Attended id) : after.Attended id := by
  obtain ⟨alive, listed⟩ := attended
  refine ⟨?_, taken.roster ▸ listed⟩
  unfold Office.alive at alive ⊢
  rw [taken.wrappers]
  exact alive

section Grab

variable {office : Office} (orderly : office.Orderly rented) {lender sensor : Nat}
  (served : office.served = some lender) (inRange : lender < office.lenders.size)
  (asks : office.asks sensor = true)
  (houses : office.Houses rented (Action.frameLength office sensor))

include orderly served inRange asks houses

/-- A sensor that asks for memory is lent a block by the lender that serves. -/
theorem Orderly.grant :
    ∃ block desk, (office.desk lender).lend (Action.frameLength office sensor) =
        (.ok (block.address, (office.lender lender).nextToken), desk) ∧
      (office.lender lender).Granted desk.lender (Action.frameLength office sensor) block ∧
      Action.answerAllocate (Action.frameLength office sensor) true office =
        (.ok (some ⟨block.address, (office.lender lender).nextToken⟩),
          office.withDesk lender desk) := by
  obtain ⟨-, -, short⟩ := asks_iff.mp asks
  have houses := houses lender served (Int.natCast_nonneg _)
  rw [Int.toNat_natCast] at houses
  rcases orderly.lent houses inRange with ⟨desk, -, beyond⟩ | ⟨block, desk, lent, granted⟩
  · have bound : Sensor.longestFrame ≤ Word.longestBlock := by decide
    exact absurd beyond.long (Nat.not_lt_of_le (Nat.le_trans short bound))
  refine ⟨block, desk, lent, granted, ?_⟩
  rw [Action.answerAllocate_of_served served (Int.natCast_nonneg _), Int.toNat_natCast, lent]

/-- A sensor that is lent a block writes its frame into it. -/
theorem Orderly.grab (sequence : UInt64) :
    ∃ block desk, (office.desk lender).lend (Action.frameLength office sensor) =
        (.ok (block.address, (office.lender lender).nextToken), desk) ∧
      (office.lender lender).Granted desk.lender (Action.frameLength office sensor) block ∧
      Action.grab sensor sequence office =
        (.ok ⟨block.address, (office.lender lender).nextToken, Action.frameLength office sensor⟩,
          { office.withDesk lender desk with
            arena := desk.arena.write block.address
              (Sensor.frameContents sequence (Action.frameLength office sensor)) }) := by
  obtain ⟨block, desk, lent, granted, answered⟩ := orderly.grant served inRange asks houses
  exact ⟨block, desk, lent, granted, Action.grab_of_granted asks answered sequence⟩

end Grab

/-- A sensor that asks for memory gets it, and takes its frame. -/
theorem Orderly.take {office : Office} (orderly : office.Orderly rented)
    (served : office.served = some 0) (inRange : 0 < office.lenders.size)
    (asks : office.asks 0 = true) (houses : office.Houses rented (Action.frameLength office 0))
    (sequence : UInt64) :
    ∃ frame after, Action.grab 0 sequence office = (.ok frame, after) ∧
      Taken frame office after ∧ after.Orderly rented := by
  obtain ⟨block, desk, lent, granted, grabbed⟩ :=
    orderly.grab served inRange asks houses sequence
  have houses := houses 0 served (Int.natCast_nonneg _)
  rw [Int.toNat_natCast] at houses
  have lending := orderly.lend houses
  have standing := (office.desk 0).standing_lend (Action.frameLength office 0)
  have dealt := (office.desk 0).dealings_lend (Action.frameLength office 0)
  rw [lent] at lending standing dealt
  have lender : (office.withDesk 0 desk).lender 0 = desk.lender := by
    rw [lender_withDesk]
    exact if_pos ⟨rfl, inRange⟩
  refine ⟨_, _, grabbed,
    { size := office.size_withDesk 0 desk
      served := rfl
      sensors := rfl
      wrappers := rfl
      roster := ?_
      loans := ?_
      dealings := dealt }, ?_⟩
  · exact (congrArg Lender.roster lender).trans (congrArg (·.2.1) standing)
  · show (((office.withDesk 0 desk).lender 0).loans.toList.map Loan.debt).Perm _
    rw [lender]
    exact granted.loans.map Loan.debt
  · have written := @keeps_of_lenders (office.withDesk 0 desk)
      { office.withDesk 0 desk with
        arena := desk.arena.write block.address
          (Sensor.frameContents sequence (Action.frameLength office 0)) }
      rfl (Nat.le_refl desk.arena.identities)
    exact written.1.2 rented lending

/-- There is one more capture, which has its frame, and the others are as they were. -/
structure Made (captures : List (WrapperId × Frame)) (frame : Frame) (before after : Office) :
    Prop where
  captured : after.Captured ((before.wrappers.size, frame) :: captures)
  unreleased : after.released before.wrappers.size = false
  others : ∀ capture ∈ captures, after.released capture.1 = before.released capture.1
  enrolled : after.Attended before.wrappers.size
  attends : ∀ id, before.Attended id → after.Attended id

theorem made_of_taken {office between after : Office} {frame : Frame}
    (captured : office.Captured captures) (connected : office.connected 0 = true)
    (taken : Taken frame office between)
    (spawned : Spawned (.capture 0 (some frame)) between after) :
    Made captures frame office after := by
  have stakes : ∀ id, after.stake id =
      if id = office.wrappers.size then some (0, .capture 0 (some frame), false)
      else office.stake id := fun id => by
    rw [spawned.stakes, taken.wrappers]
    unfold Office.stake
    rw [taken.wrappers]
  have new : after.stake office.wrappers.size = some (0, .capture 0 (some frame), false) :=
    (stakes _).trans (if_pos rfl)
  have unreleased : after.released office.wrappers.size = false := released_of_stake new
  have old : ∀ capture ∈ captures, after.stake capture.1 = office.stake capture.1 :=
    fun capture member => (stakes _).trans (if_neg (Nat.ne_of_lt (captured.lt_size member)))
  have same : ∀ capture ∈ captures, after.released capture.1 = office.released capture.1 :=
    fun capture member => captured.released_of_same member (old capture member)
  have roster : ∀ capture ∈ captures, capture.1 ∈ (after.lender 0).roster.entries →
      capture.1 ∈ (office.lender 0).roster.entries := by
    intro capture member listed
    have before := spawned.roster capture.1 listed
    rw [taken.roster, taken.wrappers] at before
    exact before.resolve_right (Nat.ne_of_lt (captured.lt_size member))
  have links : after.connected 0 = office.connected 0 :=
    spawned.connected.trans (congrArg (fun sensors => (sensors.getD 0 default).connected)
      taken.sensors)
  have dealings := spawned.dealings.trans taken.dealings
  have back : captures.filter (after.released ·.1) = captures.filter (office.released ·.1) :=
    List.filter_congr same
  have out : captures.filter (!after.released ·.1) = captures.filter (!office.released ·.1) :=
    List.filter_congr fun capture member => congrArg (!·) (same capture member)
  have enrolled := spawned.enrolled (taken.size ▸ captured.size ▸ Nat.one_pos)
  rw [taken.wrappers] at enrolled
  refine ⟨?_, unreleased, same, enrolled,
    fun id attended => spawned.attends id (taken.attends attended)⟩
  refine
    { size := spawned.size.trans (taken.size.trans captured.size)
      hooked := fun _ => spawned.served.trans (taken.served.trans (captured.hooked connected))
      connected := fun _ => links.trans connected
      distinct := List.nodup_cons.mpr ⟨fun member => ?_, captured.distinct⟩
      kept := fun capture member => ?_
      others := fun id stake has => ?_
      granted := ?_
      returned := ?_
      loans := ?_ }
  · obtain ⟨capture, member, here⟩ := List.mem_map.mp member
    exact Nat.ne_of_lt (captured.lt_size member) here
  · rcases List.mem_cons.mp member with rfl | member
    · exact Or.inl new
    · exact (captured.kept capture member).imp (old capture member).trans
        fun ⟨emptied, off⟩ => ⟨(old capture member).trans emptied, off ∘ roster capture member⟩
  · rw [stakes] at has
    split at has
    · rename_i here
      exact Or.inr ⟨frame, here ▸ List.mem_cons_self⟩
    · exact (captured.others id stake has).imp_right fun ⟨frame, member⟩ =>
        ⟨frame, List.mem_cons_of_mem _ member⟩
  · rw [show after.journal.grants = _ from congrArg Prod.fst dealings, captured.granted]
    rfl
  · rw [show after.journal.returns = _ from congrArg Prod.snd dealings, List.filter_cons,
      unreleased, if_neg Bool.false_ne_true, back]
    exact captured.returned
  · rw [spawned.loans, List.filter_cons, unreleased, if_pos (show (!false) = true from rfl), out]
    exact taken.loans.trans (captured.loans.cons frame.debt)

/-- A sensor that asks for memory takes its frame, and a capture of it is made. -/
theorem Captured.make {office : Office} (captured : office.Captured captures)
    (orderly : office.Orderly rented) (asks : office.asks 0 = true)
    (houses : office.Houses rented (Action.frameLength office 0)) (sequence : UInt64) :
    ∃ frame between after, Action.grab 0 sequence office = (.ok frame, between) ∧
      Action.makeCapture 0 0 frame between = (.ok office.wrappers.size, after) ∧
      Made captures frame office after ∧ after.Orderly rented := by
  obtain ⟨-, connected, -⟩ := asks_iff.mp asks
  have inRange : 0 < office.lenders.size := captured.size ▸ Nat.one_pos
  obtain ⟨frame, between, grabbed, taken, orderly⟩ :=
    orderly.take (captured.hooked connected) inRange asks houses sequence
  have made : Action.makeCapture 0 0 frame between =
      (.ok between.wrappers.size, (Action.enroll 0 between.wrappers.size
        (Action.makeWrapper "" 0 (.capture 0 (some frame)) between).2).2) := rfl
  rw [taken.wrappers] at made
  have spawned := between.spawned "" (.capture 0 (some frame))
  have orderly := (routine_upholds.makeWrapper "" 0 (.capture 0 (some frame)) between).2 _ orderly
  have orderly := (routine_upholds.enroll 0 between.wrappers.size _).2 _ orderly
  rw [taken.wrappers] at spawned orderly
  exact ⟨frame, between, _, grabbed, made, made_of_taken captured connected taken spawned, orderly⟩

end Office

/-! ### The studio -/

/-- One thing that happens in a studio. -/
inductive Cue where
  /-- A frame is taken while the heap has places ready, and a capture of it is made. -/
  | capture (sequence : UInt64) (places : List Nat)
  | sum (id : WrapperId) (offset length : Nat)
  | retire (id : WrapperId)
  | hold (id : WrapperId)
  | letGo (id : WrapperId)
  /-- Another wrapper is made and enrolled. -/
  | register (name : String) (duty : { duty : Duty // duty.isAside = true })
  | sweep
  | endGuard
  | unwindGuard
  deriving DecidableEq, Repr

namespace Cue

open MemoryLending.Action in
/-- What is done, and the capture that is made meanwhile. -/
def conduct : Cue → Action (Option (WrapperId × Frame))
  | capture sequence places => do
    modify (·.ready places)
    let frame ← grab 0 sequence
    return some (← makeCapture 0 0 frame, frame)
  | sum id offset length => do discard (windowSum id offset length); return none
  | retire id => do Action.retire id; return none
  | hold id => do
    if (← get).alive id then Action.hold id
    return none
  | letGo id => do Action.letGo id; return none
  | register name duty => do
    enroll 0 (← makeWrapper name 0 duty.1)
    return none
  | sweep => do discard (Action.sweep 0); return none
  | endGuard => do Action.endGuard 0; return none
  | unwindGuard => do
    (Action.unwindGuard 0 : Action Unit)
    return none

/-- Whether a cue makes a capture. -/
def makes (office : Office) : Cue → Bool
  | capture _ places => (office.ready places).asks 0
  | _ => false

/-- Whether a cue releases a capture that has not been released before: the capture is told to
retire, or the last one lets go of it, or there is a sweep. -/
def Releases (office : Office) (id : WrapperId) : Cue → Prop
  | retire told => id = told
  | letGo left => id = left ∧ office.holders left = 1
  | sweep | endGuard | unwindGuard => True
  | _ => False

end Cue

/-- A studio: its office, and the captures that have been made with their frames, the latest
first. -/
structure Studio where
  office : Office
  captures : List (WrapperId × Frame)
  /-- Whether an abort has ended the process. -/
  ended : Bool

namespace Studio

/-- Follows a cue, unless the process has ended. -/
def take (studio : Studio) (cue : Cue) : Studio :=
  if studio.ended then studio
  else
    match cue.conduct studio.office with
    | (.ok made, office) => ⟨office, made.toList ++ studio.captures, false⟩
    | (.error fault, office) => { studio with office, ended := fault = .aborted }

/-- Follows one cue after another. -/
def run (studio : Studio) (cues : List Cue) : Studio := cues.foldl take studio

/-- The studio of a lender, when a session has given the sensor the callbacks. -/
def opened (arena : Arena) (policy : Policy) (frameLength count : Nat) : Studio :=
  ⟨((Action.makeSensor frameLength count >>= Action.openSession 0)
    (Office.start arena [policy])).2, [], false⟩

/-- The heap has a place for a frame that the sensor asks memory for. -/
def Houses (studio : Studio) : Cue → Prop
  | .capture _ places => (studio.office.ready places).asks 0 = true →
      (studio.office.ready places).Houses (fun _ => [])
        (Action.frameLength (studio.office.ready places) 0)
  | _ => True

instance decidableHouses (studio : Studio) : (cue : Cue) → Decidable (studio.Houses cue)
  | .capture _ places =>
    inferInstanceAs (Decidable ((studio.office.ready places).asks 0 = true → _))
  | .sum .. | .retire _ | .hold _ | .letGo _ | .register .. | .sweep | .endGuard
  | .unwindGuard => isTrue trivial

/-- What a cue does to the captures of a studio: it makes one if the sensor asks for memory, and
otherwise none, it releases those that it names, and the frames of these are handed back, and no
others. -/
structure Followed (cue : Cue) (before after : Studio) : Prop where
  made : cue.makes before.office = true →
    ∃ capture, after.captures = capture :: before.captures ∧
      after.office.released capture.1 = false
  unmade : cue.makes before.office = false → after.captures = before.captures
  released : ∀ capture ∈ before.captures, after.office.released capture.1 = true ↔
    before.office.released capture.1 = true ∨ cue.Releases before.office capture.1
  returned : after.office.journal.returns.Perm
    ((before.captures.filter fun capture =>
        !before.office.released capture.1 && after.office.released capture.1).map
      (·.2.reclaimed) ++ before.office.journal.returns)

/-- What holds of a studio at any time: each frame was lent once, with the address and the token
of its capture, and those of the captures that have been released have been returned, once each
and with the same address and token; the others are on loan. A released capture shows nothing,
whatever is in memory, and is not on the roster; whoever is not held has been released. -/
structure Settled (studio : Studio) : Prop where
  going : studio.ended = false
  distinct : (studio.captures.map Prod.fst).Nodup
  granted : studio.office.journal.grants = studio.captures.map (·.2.lent)
  returned : studio.office.journal.returns.Perm
    ((studio.captures.filter (studio.office.released ·.1)).map (·.2.reclaimed))
  outstanding : (studio.office.lender 0).loans.count =
    studio.captures.countP (!studio.office.released ·.1)
  dropped : ∀ capture ∈ studio.captures, studio.office.alive capture.1 = false →
    studio.office.released capture.1 = true
  refuses : ∀ capture ∈ studio.captures, studio.office.released capture.1 = true →
    ∀ offset length arena,
      Action.windowSum capture.1 offset length { studio.office with arena } =
        (.error (.refused .alreadyReleased), { studio.office with arena })
  withdrawn : ∀ capture ∈ studio.captures, studio.office.released capture.1 = true →
    capture.1 ∉ (studio.office.lender 0).roster.entries
  followed : ∀ cue, studio.Houses cue → Followed cue studio (studio.take cue)

/-- What cues keep. -/
structure Kept (studio : Studio) : Prop where
  going : studio.ended = false
  orderly : studio.office.Orderly fun _ => []
  captured : studio.office.Captured studio.captures
  attended : ∀ capture ∈ studio.captures, studio.office.released capture.1 = false →
    studio.office.Attended capture.1

/-! ### One cue -/

/-- Nothing has been made, and the process has not been ended. -/
def Quiet (answer : Except Fault (Option (WrapperId × Frame))) : Prop :=
  answer = .ok none ∨ ∃ fault, fault ≠ .aborted ∧ answer = .error fault

section Take

variable {studio : Studio} (kept : studio.Kept)

include kept

theorem Kept.take_eq (cue : Cue) :
    studio.take cue =
      match cue.conduct studio.office with
      | (.ok made, office) => ⟨office, made.toList ++ studio.captures, false⟩
      | (.error fault, office) => { studio with office, ended := fault = .aborted } := by
  unfold take
  rw [kept.going, if_neg Bool.false_ne_true]

/-- The frames that are handed back are those of the captures that are released meanwhile. -/
theorem Kept.returns_perm {after : Office}
    (returned : after.journal.returns.Perm
      ((studio.captures.filter (after.released ·.1)).map (·.2.reclaimed)))
    (stays : ∀ capture ∈ studio.captures, studio.office.released capture.1 = true →
      after.released capture.1 = true) :
    after.journal.returns.Perm
      ((studio.captures.filter fun capture =>
          !studio.office.released capture.1 && after.released capture.1).map
        (·.2.reclaimed) ++ studio.office.journal.returns) := by
  -- the captures that are released now are those that have been for long and the others
  have parts := List.filter_append_perm (!studio.office.released ·.1)
    (studio.captures.filter (after.released ·.1))
  rw [List.filter_filter, List.filter_filter] at parts
  have old : (studio.captures.filter fun capture =>
      !!studio.office.released capture.1 && after.released capture.1) =
        studio.captures.filter (studio.office.released ·.1) := by
    refine List.filter_congr fun capture member => ?_
    cases released : studio.office.released capture.1 with
    | true => rw [stays capture member released]; rfl
    | false => rfl
  rw [old] at parts
  have listed := parts.map fun capture : WrapperId × Frame => capture.2.reclaimed
  rw [List.map_append] at listed
  exact returned.trans (listed.symm.trans (kept.captured.returned.symm.append_left _))

/-- What a cue comes to that makes no capture. -/
theorem Kept.settle {cue : Cue} (idle : cue.makes studio.office = false)
    {answer : Except Fault (Option (WrapperId × Frame))} {after : Office}
    (conducted : cue.conduct studio.office = (answer, after)) (quiet : Quiet answer)
    (orderly : after.Orderly fun _ => []) {ids : List WrapperId}
    (discharged : Office.Discharged studio.captures ids studio.office after)
    (named : ∀ capture ∈ studio.captures,
      capture.1 ∈ ids ↔ cue.Releases studio.office capture.1) :
    (studio.take cue).Kept ∧ Followed cue studio (studio.take cue) := by
  have same : studio.take cue = ⟨after, studio.captures, false⟩ := by
    rw [kept.take_eq, conducted]
    rcases quiet with rfl | ⟨fault, alive, rfl⟩
    · rfl
    · exact congrArg (Studio.mk after studio.captures) (decide_eq_false alive)
  have released := discharged.released
  rw [same]
  refine ⟨⟨rfl, orderly, discharged.captured, fun capture member left => ?_⟩,
    ⟨fun makes => ?_, fun _ => rfl, fun capture member => ?_, ?_⟩⟩
  · exact discharged.stays capture member left
      (kept.attended capture member (discharged.unreleased member left))
  · cases idle.symm.trans makes
  · rw [← named capture member]
    exact released capture member
  · exact kept.returns_perm discharged.captured.returned fun capture member before =>
      (released capture member).mpr (Or.inl before)

/-- A cue that touches no frame. -/
theorem Kept.settle_undisturbed {cue : Cue} (idle : cue.makes studio.office = false)
    {answer : Except Fault (Option (WrapperId × Frame))} {after : Office}
    (conducted : cue.conduct studio.office = (answer, after)) (quiet : Quiet answer)
    (orderly : after.Orderly fun _ => [])
    (undisturbed : Office.Undisturbed [] studio.office after)
    (none : ∀ id, ¬cue.Releases studio.office id) :
    (studio.take cue).Kept ∧ Followed cue studio (studio.take cue) :=
  kept.settle idle conducted quiet orderly (undisturbed.discharged kept.captured nofun)
    fun capture _ => iff_of_false List.not_mem_nil (none capture.1)

/-- A sweep, and what is done with its outcome. -/
theorem Kept.settle_sweep {cue : Cue} (idle : cue.makes studio.office = false)
    (names : ∀ id, cue.Releases studio.office id)
    (conducted : ∀ report after, Action.sweep 0 studio.office = (.ok report, after) →
      ∃ answer, Quiet answer ∧ cue.conduct studio.office = (answer, after)) :
    (studio.take cue).Kept ∧ Followed cue studio (studio.take cue) := by
  obtain ⟨report, after, swept, discharged⟩ := kept.captured.sweep kept.orderly kept.attended
  have orderly := (Office.routine_upholds.sweep 0 studio.office).2 _ kept.orderly
  rw [swept] at orderly
  obtain ⟨answer, quiet, conducted⟩ := conducted report after swept
  exact kept.settle idle conducted quiet orderly discharged fun capture member =>
    iff_of_true (List.mem_map_of_mem member) (names capture.1)

/-- A sensor that asks for memory gets it, and there is one more capture. -/
theorem Kept.capture {sequence : UInt64} {places : List Nat}
    (houses : studio.Houses (.capture sequence places)) :
    (studio.take (.capture sequence places)).Kept ∧
      Followed (.capture sequence places) studio (studio.take (.capture sequence places)) := by
  have still : Office.Undisturbed [] studio.office (studio.office.ready places) :=
    studio.office.undisturbed_ready places
  have beside : studio.office.Keeps (studio.office.ready places) :=
    Office.keeps_of_lenders rfl (Nat.le_refl studio.office.arena.identities)
  have orderly := beside.1.2 _ kept.orderly
  have captured := still.captured kept.captured
  have announced : (modify (·.ready places) : Action PUnit) studio.office =
      (.ok (), studio.office.ready places) := rfl
  cases asks : (studio.office.ready places).asks 0 with
  | false =>
    obtain ⟨complaint, grabbed⟩ := Action.grab_of_idle asks sequence
    have conducted : Cue.conduct (.capture sequence places) studio.office =
        (.error (.complained complaint), studio.office.ready places) :=
      (Action.run_bind_of_ok announced).trans (Action.run_bind_of_error grabbed)
    exact kept.settle_undisturbed asks conducted (Or.inr ⟨.complained complaint, nofun, rfl⟩)
      orderly still fun _ => False.elim
  | true =>
    obtain ⟨frame, between, after, grabbed, made, new, orderly⟩ :=
      captured.make orderly asks (houses asks) sequence
    have conducted : Cue.conduct (.capture sequence places) studio.office =
        (.ok (some (studio.office.wrappers.size, frame)), after) :=
      (Action.run_bind_of_ok announced).trans
        ((Action.run_bind_of_ok grabbed).trans (Action.run_bind_of_ok made))
    have same : studio.take (.capture sequence places) =
        ⟨after, (studio.office.wrappers.size, frame) :: studio.captures, false⟩ := by
      rw [kept.take_eq, conducted]
      rfl
    have released : ∀ capture ∈ studio.captures,
        after.released capture.1 = studio.office.released capture.1 := fun capture member =>
      (new.others capture member).trans (still.released kept.captured member)
    rw [same]
    refine ⟨⟨rfl, orderly, new.captured, fun capture member unreleased => ?_⟩,
      ⟨fun _ => ⟨_, rfl, new.unreleased⟩, fun idle => ?_, fun capture member => ?_, ?_⟩⟩
    · rcases List.mem_cons.mp member with rfl | member
      · exact new.enrolled
      · rw [released capture member] at unreleased
        exact new.attends capture.1 (kept.attended capture member unreleased)
    · cases idle.symm.trans asks
    · exact (released capture member) ▸ (or_iff_left id).symm
    · refine kept.returns_perm ?_ fun capture member before =>
        (released capture member).trans before
      have returned := new.captured.returned
      rw [List.filter_cons, if_neg (Bool.eq_false_iff.mp new.unreleased)] at returned
      exact returned

/-- Whatever the cue, captures stay as they should be. -/
theorem Kept.take {cue : Cue} (houses : studio.Houses cue) :
    (studio.take cue).Kept ∧ Followed cue studio (studio.take cue) := by
  have orderly := kept.orderly
  have captured := kept.captured
  have upholds := Office.routine_upholds
  cases cue with
  | capture sequence places => exact kept.capture houses
  | sum id offset length =>
    have still := Office.reads_undisturbed.windowSum id offset length studio.office
    have lent : ∀ lender frame, studio.office.Holding id lender frame →
        studio.office.Lends lender frame := fun _ _ => captured.lends_of_holding
    have orderly := orderly.windowSum lent offset length
    have alive := studio.office.alive_windowSum id offset length
    refine kept.settle_undisturbed rfl (Action.run_discard_bind_pure _ none _) ?_ orderly still
      fun _ => False.elim
    rcases came : (Action.windowSum id offset length studio.office).1 with fault | total
    · exact Or.inr ⟨fault, fun aborted => alive (came.trans (congrArg _ aborted)), rfl⟩
    · exact Or.inl rfl
  | retire id =>
    obtain ⟨after, retired, discharged⟩ := captured.retire orderly id
    have orderly := (upholds.retire id studio.office).2 _ orderly
    rw [retired] at orderly
    refine kept.settle rfl (Action.run_bind_of_ok retired) (Or.inl rfl) orderly discharged
      fun capture _ => List.mem_singleton
  | hold id =>
    by_cases alive : studio.office.alive id = true
    · have held : Office.Undisturbed [id] studio.office (Action.hold id studio.office).2 :=
        studio.office.undisturbed_changeWrapper id fun _ _ => rfl
      have conducted : Cue.conduct (.hold id) studio.office =
          (.ok none, (Action.hold id studio.office).2) :=
        congrFun (if_pos alive) studio.office
      refine kept.settle_undisturbed rfl conducted (Or.inl rfl)
        ((upholds.hold id studio.office).2 _ orderly) (held.spare fun other here _ attended => ?_)
        fun _ => False.elim
      obtain rfl := List.mem_singleton.mp here
      refine ⟨?_, attended.2⟩
      obtain ⟨wrapper, found, -⟩ := Office.found_of_alive alive
      unfold Office.alive Action.hold
      rw [Office.getElem?_changeWrapper, if_pos rfl, found]
      rfl
    · exact kept.settle_undisturbed rfl (congrFun (if_neg alive) studio.office) (Or.inl rfl) orderly
        (Office.Undisturbed.refl [] studio.office) fun _ => False.elim
  | letGo id =>
    obtain ⟨after, left, discharged⟩ := captured.letGo orderly id
    have orderly := (upholds.letGo id studio.office).2 _ orderly
    rw [left] at orderly
    refine kept.settle rfl (Action.run_bind_of_ok left) (Or.inl rfl) orderly discharged
      fun capture _ => ?_
    by_cases last : studio.office.holders id = 1
    · rw [if_pos last, List.mem_singleton]
      exact (and_iff_left last).symm
    · rw [if_neg last]
      exact iff_of_false List.not_mem_nil fun both => last both.2
  | register name duty =>
    have spawned := studio.office.undisturbed_spawn name duty.2
    have orderly := (upholds.enroll 0 studio.office.wrappers.size _).2 _
      ((upholds.makeWrapper name 0 duty.1 studio.office).2 _ orderly)
    exact kept.settle_undisturbed rfl rfl (Or.inl rfl) orderly spawned fun _ => False.elim
  | sweep =>
    refine kept.settle_sweep rfl (fun _ => trivial) fun report after swept =>
      ⟨.ok none, Or.inl rfl, (Action.run_discard_bind_pure _ none _).trans ?_⟩
    rw [swept]
    rfl
  | endGuard =>
    exact kept.settle_sweep rfl (fun _ => trivial) fun report after swept =>
      ⟨.ok none, Or.inl rfl, Action.run_bind_of_ok (Action.endGuard_of_swept swept)⟩
  | unwindGuard =>
    exact kept.settle_sweep rfl (fun _ => trivial) fun report after swept =>
      ⟨.error (.panicked .unwinding), Or.inr ⟨.panicked .unwinding, nofun, rfl⟩,
        Action.run_bind_of_error (Action.unwindGuard_of_swept swept)⟩

end Take

/-! ### Runs -/

/-- A new office with a sensor. -/
def equipped (arena : Arena) (policy : Policy) (frameLength : Nat) (buffers : List Block) :
    Office :=
  { Office.start arena [policy] with sensors := #[⟨false, frameLength, buffers, true⟩] }

theorem makeSensor_start (arena : Arena) (policy : Policy) (frameLength : Nat) {count : Nat}
    (table : count * Sensor.entryLength ≤ Word.longestBlock) :
    Action.makeSensor frameLength count (Office.start arena [policy]) =
      (.ok 0, equipped (Sensor.placeBuffers arena count 0).1 policy frameLength
        (Sensor.placeBuffers arena count 0).2) := by
  unfold Action.makeSensor
  rw [if_neg (Nat.not_lt_of_le table)]
  rfl

/-- A table of buffers that no block can hold is too long. -/
theorem makeSensor_of_long (office : Office) (frameLength : Nat) {count : Nat}
    (long : Word.longestBlock < count * Sensor.entryLength) :
    Action.makeSensor frameLength count office =
      (.error (.panicked .capacityOverflow), office) := by
  unfold Action.makeSensor
  rw [if_pos long]
  rfl

/-- The place is free at first, so the sensor gets the callbacks. -/
theorem openSession_equipped (arena : Arena) (policy : Policy) (frameLength : Nat)
    (buffers : List Block) :
    Action.openSession 0 0 (equipped arena policy frameLength buffers) =
      (.ok 0,
        { equipped arena policy frameLength buffers with
          lenders := #[{ Lender.ofPolicy policy with
            roster := ⟨[0], Roster.sweepFloor⟩, serving := true }]
          wrappers := #[⟨"", 0, .session 0, ReleaseFlag.held, 1⟩]
          sensors := #[⟨true, frameLength, buffers, true⟩]
          served := some 0
          sweepsAtExit := true
          journal := [.callbacksInstalled] }) := rfl

/-- A lender and a sensor with its own buffers open a session. -/
theorem opening_start (arena : Arena) (policy : Policy) (frameLength : Nat) {count : Nat}
    (table : count * Sensor.entryLength ≤ Word.longestBlock) :
    (Action.makeSensor frameLength count >>= Action.openSession 0) (Office.start arena [policy]) =
      (.ok 0,
        { equipped (Sensor.placeBuffers arena count 0).1 policy frameLength
            (Sensor.placeBuffers arena count 0).2 with
          lenders := #[{ Lender.ofPolicy policy with
            roster := ⟨[0], Roster.sweepFloor⟩, serving := true }]
          wrappers := #[⟨"", 0, .session 0, ReleaseFlag.held, 1⟩]
          sensors := #[⟨true, frameLength, (Sensor.placeBuffers arena count 0).2, true⟩]
          served := some 0
          sweepsAtExit := true
          journal := [.callbacksInstalled] }) := by
  rw [Action.run_bind_of_ok (makeSensor_start arena policy frameLength table)]
  exact openSession_equipped _ policy frameLength _

/-- When nothing has been lent, there are no captures. -/
theorem captured_nil {office : Office} (size : office.lenders.size = 1)
    (hooked : office.connected 0 = true → office.served = some 0)
    (aside : ∀ id stake, office.stake id = some stake → stake.2.1.isAside = true)
    (loans : (office.lender 0).loans.toList = [])
    (dealings : office.journal.dealings = ([], [])) : office.Captured [] where
  size := size
  hooked := hooked
  connected some := absurd rfl some
  distinct := List.nodup_nil
  kept _ := nofun
  others id stake has := Or.inl (aside id stake has)
  granted := congrArg Prod.fst dealings
  returned := List.Perm.of_eq (congrArg Prod.snd dealings)
  loans := List.Perm.of_eq (congrArg (List.map Loan.debt) loans)

theorem kept_opened (arena : Arena) (policy : Policy) (frameLength count : Nat) :
    (opened arena policy frameLength count).Kept := by
  have began := Process.running_start arena [policy]
  by_cases long : Word.longestBlock < count * Sensor.entryLength
  · unfold opened
    rw [Action.run_bind_of_error (makeSensor_of_long _ frameLength long)]
    exact ⟨rfl, began.inOrder.orderly, captured_nil rfl nofun nofun rfl rfl, fun _ => nofun⟩
  · have made := makeSensor_start arena policy frameLength (Nat.le_of_not_lt long)
    have later : arena.identities ≤ (Sensor.placeBuffers arena count 0).1.identities := by
      rw [Action.identities_placeBuffers]
      exact Nat.le_add_right _ count
    generalize Sensor.placeBuffers arena count 0 = placed at made later
    have keeps : (Office.start arena [policy]).Keeps
        (equipped placed.1 policy frameLength placed.2) := Office.keeps_of_lenders rfl later
    have post : (equipped placed.1 policy frameLength placed.2).post =
        (Process.start arena [policy]).office.post := rfl
    have hooked := openSession_equipped placed.1 policy frameLength placed.2
    have alive : (Action.openSession 0 0 (equipped placed.1 policy frameLength placed.2)).1 ≠
        .error .aborted := by
      rw [hooked]
      exact nofun
    have inOrder := (keeps.inOrder began.inOrder).openSession (began.manned.of_post post)
      Nat.one_pos 0 alive
    rw [hooked] at inOrder
    unfold opened
    rw [Action.run_bind_of_ok made, hooked]
    refine ⟨rfl, inOrder.orderly, captured_nil rfl (fun _ => rfl) (fun id stake has => ?_) rfl rfl,
      fun _ => nofun⟩
    cases id with
    | zero =>
      cases has
      rfl
    | succ id => cases has

theorem kept_run (arena : Arena) (policy : Policy) (frameLength count : Nat) {cues : List Cue}
    (houses : Throughout take Houses (opened arena policy frameLength count) cues) :
    ((opened arena policy frameLength count).run cues).Kept :=
  throughout_induction (kept_opened arena policy frameLength count) houses
    fun _ _ houses kept => (kept.take houses).1

/-- What cues keep says what has become of every frame. -/
theorem Kept.settled {studio : Studio} (kept : studio.Kept) : studio.Settled where
  going := kept.going
  distinct := kept.captured.distinct
  granted := kept.captured.granted
  returned := kept.captured.returned
  outstanding := kept.captured.outstanding
  dropped capture member gone := by
    refine Bool.eq_true_of_not_eq_false fun unreleased => ?_
    cases gone.symm.trans (kept.attended capture member unreleased).1
  refuses capture member released offset length arena := by
    obtain ⟨wrapper, found, -⟩ :=
      Office.found_of_stake (kept.captured.emptied member released).1
    exact Action.windowSum_of_released (show
      ({ studio.office with arena } : Office).wrappers[capture.1]? = some wrapper from found)
      ((Office.released_of_found found).symm.trans released) offset length
  withdrawn capture member released := (kept.captured.emptied member released).2
  followed _ houses := (kept.take houses).2

/-- In every studio over a heap, whatever happens in it, each frame is handed back once, when its
capture is first released. -/
theorem settled_run (arena : Arena) (policy : Policy) (frameLength count : Nat) (cues : List Cue)
    (houses : Throughout take Houses (opened arena policy frameLength count) cues) :
    ((opened arena policy frameLength count).run cues).Settled :=
  (kept_run arena policy frameLength count houses).settled

/-- Three frames are taken, and the session stops the sensor. The first capture is told to retire,
twice, and can then not be summed up; the last holder of the second is gone; a sweep releases the
third. -/
theorem settled_run_stopped :
    let cues : List Cue := [.capture 7 [4096], .capture 8 [8192], .capture 9 [12288],
      .sum 1 0 17, .retire 0, .capture 10 [16384], .retire 1, .retire 1, .sum 1 0 1,
      .hold 2, .letGo 2, .letGo 2]
    let opened := opened (Arena.startingAt 65536 16 16) Policy.standard 16 2
    let studio := opened.run cues
    Throughout take Houses opened cues ∧ studio.Settled ∧
      studio.captures.map Prod.fst = [3, 2, 1] ∧
        studio.office.journal.returns =
          [.reclaimed 8192 16 ⟨2⟩, .reclaimed 4096 16 ⟨1⟩] ∧
          (studio.office.lender 0).loans.count = 1 ∧
            (studio.take .sweep).office.journal.returns =
              [.reclaimed 12288 16 ⟨3⟩, .reclaimed 8192 16 ⟨2⟩, .reclaimed 4096 16 ⟨1⟩] := by
  intro cues opened studio
  have houses : Throughout take Houses opened cues := by decide +kernel
  have settled : studio.Settled := settled_run _ _ _ _ cues houses
  refine ⟨houses, settled, by decide +kernel, by decide +kernel, by decide +kernel, ?_⟩
  decide +kernel

end Studio

end MemoryLending
