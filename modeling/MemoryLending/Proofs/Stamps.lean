/-
This file follows the bytes of a frame. A sensor writes the number of a frame into its first eight
bytes, lowest first, and the lowest byte into all others. Whatever process has run before, and
whatever the block that is lent has been used for, a frame that is taken shows its stamp in every
byte, no other byte is written, and the lender that serves tracks the frame and nothing more. So
every window of the frame is read in place and sums up to the bytes of its stamp. A sensor that has
been stopped, has no callbacks or has frames too long to ask for changes nothing at all.
-/

import Mathlib.Algebra.Group.Action.Defs
import Mathlib.Algebra.Order.BigOperators.Group.List
import Mathlib.Algebra.Order.Ring.Nat
import MemoryLending.Proofs.Footprint
import MemoryLending.Proofs.Soaking

namespace MemoryLending

/-! ### Bytes and their sums -/

namespace Run

theorem toList_fill (value : UInt8) (length : Nat) :
    (fill value length).toList = List.replicate length value := by
  unfold toList
  rw [show (fill value length).byte = fun _ => value from funext (byte_fill value length)]
  exact (List.map_const' ..).trans (congrArg (List.replicate · value) List.length_range)

theorem sumFrom_eq (run : Run) (count index total : Nat) :
    run.sumFrom count index total =
      total + ((List.range count).map fun step => (run.byte (index + step)).toNat).sum := by
  induction count generalizing index total with
  | zero => rfl
  | succ count inductionHypothesis =>
    rw [sumFrom, inductionHypothesis, List.range_succ_eq_map, List.map_cons, List.sum_cons,
      List.map_map, Nat.add_assoc]
    simp only [Function.comp_def, Nat.add_zero, Nat.succ_eq_add_one, Nat.add_assoc,
      Nat.add_comm 1]

/-- The sum of a run is the sum of its bytes, whether or not they are all the same. -/
theorem sum_eq (run : Run) : run.sum = (run.toList.map UInt8.toNat).sum := by
  unfold sum
  by_cases level : run.step = 0
  · have same : run = fill run.first run.length := by
      obtain ⟨first, step, length⟩ := run
      exact congrArg (Run.mk first · length) level
    rw [if_pos level, same, toList_fill, List.map_replicate, List.sum_replicate]
    rfl
  · rw [if_neg level, sumFrom_eq, Nat.zero_add]
    unfold toList
    rw [List.map_map]
    simp only [Nat.zero_add, Function.comp_def]

end Run

namespace Bytes

theorem sum_eq (bytes : Bytes) : bytes.sum = (bytes.toList.map UInt8.toNat).sum := by
  induction bytes with
  | nil => rfl
  | cons run rest inductionHypothesis =>
    rw [sum, inductionHypothesis, run.sum_eq, toList_cons, List.map_append, List.sum_append]

theorem toList_ofList (bytes : List UInt8) : (ofList bytes).toList = bytes := by
  induction bytes with
  | nil => rfl
  | cons byte rest inductionHypothesis =>
    show (Run.fill byte 1).toList ++ (ofList rest).toList = _
    rw [inductionHypothesis, Run.toList_fill]
    rfl

/-- Byte `index` of a word is the quotient by that power of 256, cut off to a byte. -/
theorem littleEndian_eq (width : Nat) (word : UInt64) :
    littleEndian width word =
      (List.range width).map fun index => UInt8.ofNat (word.toNat / 256 ^ index) := by
  induction width generalizing word with
  | zero => rfl
  | succ width inductionHypothesis =>
    have shifted : (word >>> 8).toNat = word.toNat / 256 := by
      rw [UInt64.toNat_shiftRight, Nat.shiftRight_eq_div_pow]
      rfl
    rw [littleEndian, inductionHypothesis, List.range_succ_eq_map, List.map_cons, List.map_map,
      pow_zero, Nat.div_one, shifted]
    refine congrArg₂ List.cons rfl (List.map_congr_left fun index _ => ?_)
    show _ = UInt8.ofNat (word.toNat / 256 ^ (index + 1))
    rw [Nat.div_div_eq_div_mul, ← pow_succ']

end Bytes

namespace Sensor

/-- Byte `index` of a frame: that byte of its number, the lowest first, and from the ninth byte on
the lowest byte again. -/
def stamp (sequence : UInt64) (index : Nat) : UInt8 :=
  UInt8.ofNat (if index < 8 then sequence.toNat / 256 ^ index else sequence.toNat)

/-- The stamp of a frame from an offset on. -/
def stamps (sequence : UInt64) (offset length : Nat) : List UInt8 :=
  (List.range length).map fun index => stamp sequence (offset + index)

theorem length_stamps (sequence : UInt64) (offset length : Nat) :
    (stamps sequence offset length).length = length := by
  unfold stamps
  rw [List.length_map, List.length_range]

theorem stamps_add (sequence : UInt64) (offset first second : Nat) :
    stamps sequence offset (first + second) =
      stamps sequence offset first ++ stamps sequence (offset + first) second := by
  unfold stamps
  rw [List.range_add, List.map_append, List.map_map]
  congr 2
  funext index
  exact congrArg (stamp sequence) (Nat.add_assoc offset first index).symm

theorem take_littleEndian (sequence : UInt64) (length : Nat) :
    (Bytes.littleEndian 8 sequence).take length = stamps sequence 0 (min length 8) := by
  rw [Bytes.littleEndian_eq, ← List.map_take, List.take_range]
  refine List.map_congr_left fun index member => ?_
  have early : index < 8 := Nat.lt_of_lt_of_le (List.mem_range.mp member) (Nat.min_le_right ..)
  unfold stamp
  rw [Nat.zero_add, if_pos early]

theorem replicate_eq_stamps (sequence : UInt64) {offset length : Nat}
    (late : length = 0 ∨ 8 ≤ offset) :
    List.replicate length sequence.toUInt8 = stamps sequence offset length := by
  have level : (List.range length).map (fun _ => sequence.toUInt8) =
      List.replicate length sequence.toUInt8 := by
    rw [List.map_const', List.length_range]
  rw [← level]
  refine List.map_congr_left fun index member => ?_
  have within := List.mem_range.mp member
  exact congrArg UInt8.ofNat (if_neg (by omega)).symm

/-- What is written into a frame is its stamp, also where the frame is shorter than a number. -/
theorem toList_frameContents (sequence : UInt64) (length : Nat) :
    (frameContents sequence length).toList = stamps sequence 0 length := by
  unfold frameContents
  dsimp only
  rw [Bytes.toList_append, Bytes.toList_ofList, take_littleEndian, length_stamps]
  refine (congrArg (_ ++ ·) ((List.append_nil _).trans (Run.toList_fill _ _))).trans ?_
  have late : length - min length 8 = 0 ∨ 8 ≤ 0 + min length 8 := by omega
  rw [replicate_eq_stamps sequence late, ← stamps_add,
    Nat.add_sub_cancel' (Nat.min_le_left length 8)]

theorem size_frameContents (sequence : UInt64) (length : Nat) :
    (frameContents sequence length).size = length := by
  rw [← Bytes.length_toList, toList_frameContents, length_stamps]

/-- No window of a frame that a sensor asks for is too long to be summed up in a machine word. -/
theorem sum_stamps_lt (sequence : UInt64) {offset length : Nat} (short : length ≤ longestFrame) :
    ((stamps sequence offset length).map UInt8.toNat).sum < Word.limit := by
  have bound := List.sum_le_card_nsmul ((stamps sequence offset length).map UInt8.toNat) 255
    fun byte member => by
      obtain ⟨value, -, rfl⟩ := List.mem_map.mp member
      exact Nat.le_of_lt_succ value.toNat_lt
  rw [List.length_map, length_stamps, smul_eq_mul] at bound
  unfold longestFrame at short
  unfold Word.limit
  have sizes : UInt32.size = 4294967296 ∧ UInt64.size = 18446744073709551616 := ⟨rfl, rfl⟩
  omega

end Sensor

namespace Memory

/-- A range that shows the stamp of a frame byte by byte shows it from every offset on. -/
theorem bytes_eq_stamps {memory : Memory} {sequence : UInt64} {address length : Nat}
    (stamped : ∀ index < length, memory.byte (address + index) = Sensor.stamp sequence index)
    {offset count : Nat} (inside : offset + count ≤ length) :
    memory.bytes (address + offset) count = Sensor.stamps sequence offset count := by
  refine List.map_congr_left fun index member => ?_
  have within := List.mem_range.mp member
  rw [Nat.add_assoc]
  exact stamped (offset + index) (by omega)

/-- A frame that is written shows its stamp. -/
theorem byte_put_frame (memory : Memory) (address : Nat) (sequence : UInt64) {length index : Nat}
    (within : index < length) :
    (memory.put address (Sensor.frameContents sequence length)).byte (address + index) =
      Sensor.stamp sequence index := by
  have shown := memory.bytes_put address (Sensor.frameContents sequence length)
  rw [Sensor.size_frameContents, Sensor.toList_frameContents] at shown
  have here := congrArg (·[index]?) shown
  rw [getElem?_bytes _ within] at here
  refine Option.some.inj (here.trans ?_)
  unfold Sensor.stamps
  rw [List.getElem?_map, List.getElem?_range within]
  exact congrArg (some ∘ Sensor.stamp sequence) (Nat.zero_add index)

end Memory

/-! ### The block of a frame -/

/-- The addresses of a frame. -/
def Frame.range (frame : Frame) : Set Nat :=
  Set.Ico frame.address (frame.address + frame.length)

/-- A loan that comes about brings nothing but zeros, and those to the bytes that are lent. A loan
of no bytes has one byte to itself. -/
theorem Desk.byte_lend {desk after : Desk} {size address : Nat} {token : Token}
    (lent : desk.lend size = (.ok (address, token), after)) {other : Nat}
    (outside : other ∉ Set.Ico address (address + max size 1)) :
    after.arena.memory.byte other = desk.arena.memory.byte other := by
  have arena : after.arena = (desk.blockFor size).2.arena := by
    have ground := congrArg Prod.fst (overlooks_ground.lend desk size)
    rw [lent] at ground
    exact ground
  obtain ⟨block, drawn, rfl⟩ :
      ∃ block, (desk.blockFor size).1 = .ok block ∧ block.address = address := by
    have outcome := desk.lending size
    rw [lent] at outcome
    cases outcome with
    | granted block _ _ _ drawn => exact ⟨block, congrArg Prod.fst drawn, rfl⟩
  rw [arena]
  unfold blockFor at drawn ⊢
  by_cases zero : size = 0
  · rw [if_pos zero] at drawn ⊢
    cases drawn
    refine (Arena.byte_place _ _ _).trans (if_neg fun inside => outside ?_)
    exact ⟨inside.1, by rw [zero]; exact inside.2⟩
  · rw [if_neg zero] at drawn ⊢
    have supplied := desk.supplied size
    rw [drawn] at supplied
    generalize (desk.procure size).2.arena = arena at supplied ⊢
    cases supplied with
    | kept => rfl
    | placed positive short =>
      refine (Arena.byte_place _ _ _).trans (if_neg fun inside => outside ?_)
      exact ⟨inside.1, Nat.lt_of_lt_of_le inside.2 (Nat.add_le_add_left (Nat.le_max_left ..) _)⟩

/-! ### A stamped frame -/

namespace Office

/-- A window of a frame is read in place, through the loan of the frame, and a capture of the frame
sums up the bytes of its stamp there. -/
structure Windowed (office : Office) (lender sensor : Nat) (sequence : UInt64) (frame : Frame)
    (offset length : Nat) : Prop where
  owned : ∃ view desk,
    (office.desk lender).reach (frame.address + offset) length = (.ok (.inPlace view), desk) ∧
    view.base = frame.address ∧ view.token = frame.context ∧
    view.offset = offset ∧ view.length = length ∧
    (desk.viewBytes view).toList = Sensor.stamps sequence offset length
  summed : ∃ id captured, Action.makeCapture lender sensor frame office = (.ok id, captured) ∧
    Action.windowSum id offset length captured =
      (.ok ((Sensor.stamps sequence offset length).map UInt8.toNat).sum, captured)
  fits : ((Sensor.stamps sequence offset length).map UInt8.toNat).sum < Word.limit

/-- A frame has been taken on loan from a lender and shows its stamp, and nothing else has been
written. -/
structure Stamped (lender sensor : Nat) (sequence : UInt64) (frame : Frame)
    (before after : Office) : Prop where
  length : frame.length = Action.frameLength before sensor
  bytes : ∀ index < frame.length,
    after.arena.memory.byte (frame.address + index) = Sensor.stamp sequence index
  /-- The lender tracks the frame besides what it has tracked before. -/
  tracked : ∃ block, block.address = frame.address ∧ frame.length ≤ block.capacity ∧
    (after.lender lender).loans.toList.Perm
      (⟨frame.context, block, frame.length⟩ :: (before.lender lender).loans.toList)
  others : ∀ other, other ≠ lender → after.lender other = before.lender other
  /-- What the sensor does after the callback has granted the frame is all inside the frame. -/
  inside : ∃ granted, Action.answerAllocate frame.length true before =
      (.ok (some ⟨frame.address, frame.context⟩), granted) ∧
    after.lenders = granted.lenders ∧ ∀ address ∉ frame.range,
      after.arena.memory.byte address = granted.arena.memory.byte address
  /-- A frame of no bytes has one byte to itself, which the callback may have cleared. -/
  outside : ∀ address ∉ Set.Ico frame.address (frame.address + max frame.length 1),
    after.arena.memory.byte address = before.arena.memory.byte address
  windows : ∀ offset length, length ≠ 0 → offset + length ≤ frame.length →
    after.Windowed lender sensor sequence frame offset length

/-- What comes of it when a sensor is told to take a frame. The office is as before where the sensor
does not ask for memory, and has one more record where nobody answers. -/
structure Stamping (office : Office) (sensor : Nat) (sequence : UInt64) : Prop where
  stopped : (office.sensors.getD sensor default).running = false →
    Action.grab sensor sequence office = (.error (.complained .sensorStopped), office)
  unconnected : (office.sensors.getD sensor default).running = true →
    office.connected sensor = false →
    Action.grab sensor sequence office = (.error (.complained .noCallbacks), office)
  long : (office.sensors.getD sensor default).running = true → office.connected sensor = true →
    Sensor.longestFrame < Action.frameLength office sensor →
    Action.grab sensor sequence office = (.error (.complained .lengthTooLarge), office)
  unserved : office.asks sensor = true → office.served = none →
    Action.grab sensor sequence office =
      (.error (.complained (.allocationRefused (Action.frameLength office sensor))),
        (Action.log .allocateUnserved office).2)
  stamped : office.asks sensor = true → ∀ lender, office.served = some lender →
    ∃ frame after, Action.grab sensor sequence office = (.ok frame, after) ∧
      Stamped lender sensor sequence frame office after

/-- The office in which a frame has been captured. -/
def captured (office : Office) (lender sensor : Nat) (frame : Frame) : Office :=
  (Action.makeCapture lender sensor frame office).2

theorem lends_captured {office : Office} {lender : Nat} {frame : Frame}
    (lends : office.Lends lender frame) (sensor : Nat) :
    (office.captured lender sensor frame).Lends lender frame := by
  have enrolled := (Action.makeWrapper "" lender (.capture sensor (some frame)) office).2
    |>.lender_changeRoster lender lender fun roster alive =>
      roster.enroll alive office.wrappers.size
  obtain ⟨loan, member, shape⟩ := lends
  refine ⟨loan, ?_, shape⟩
  have loans : ((office.captured lender sensor frame).lender lender).loans =
      (office.lender lender).loans := by
    refine (congrArg Lender.loans enrolled).trans ?_
    split <;> rfl
  exact loans ▸ member

section Grab

variable {office : Office} {rented : Nat → List Block} (orderly : office.Orderly rented)
  {lender sensor : Nat} {sequence : UInt64}

include orderly

/-- Each window with bytes of a frame on loan that shows its stamp. -/
theorem Orderly.windowed {frame : Frame} (lends : office.Lends lender frame)
    (short : frame.length ≤ Sensor.longestFrame)
    (stamped : ∀ index < frame.length,
      office.arena.memory.byte (frame.address + index) = Sensor.stamp sequence index)
    {offset length : Nat} (solid : length ≠ 0) (inside : offset + length ≤ frame.length) :
    office.Windowed lender sensor sequence frame offset length := by
  have shown := Memory.bytes_eq_stamps stamped inside
  refine ⟨?_, ⟨office.wrappers.size, office.captured lender sensor frame, rfl, ?_⟩,
    Sensor.sum_stamps_lt sequence (by omega)⟩
  · obtain ⟨loan, -, ⟨base, token⟩, reached⟩ := orderly.reach_window lends inside solid
    refine ⟨_, _, reached, base, token, rfl, rfl, ?_⟩
    rw [← shown, ← base]
    exact Memory.toList_cut ..
  · have made := (routine_upholds.makeWrapper "" lender (.capture sensor (some frame)) office).2 _
      orderly
    have enrolled : (office.captured lender sensor frame).Orderly rented :=
      (routine_upholds.enroll lender office.wrappers.size _).2 _ made
    have found : (office.captured lender sensor frame).wrappers[office.wrappers.size]? =
        some ⟨"", lender, .capture sensor (some frame), ⟨false⟩, 1⟩ :=
      (office.getElem?_makeWrapper "" lender _ _).trans (if_pos rfl)
    rw [enrolled.windowSum_eq (lends_captured lends sensor) found inside solid, Bytes.sum_eq,
      ← shown]
    exact congrArg (fun bytes => (Except.ok (List.sum (List.map UInt8.toNat bytes)), _))
      (Memory.toList_cut ..)

/-- A sensor that asks for memory takes a frame, and stamps it. -/
theorem Orderly.stamped (served : office.served = some lender)
    (inRange : lender < office.lenders.size) (asks : office.asks sensor = true)
    (houses : office.Houses rented (Action.frameLength office sensor)) :
    ∃ frame after, Action.grab sensor sequence office = (.ok frame, after) ∧
      Stamped lender sensor sequence frame office after := by
  obtain ⟨-, -, short⟩ := asks_iff.mp asks
  obtain ⟨block, desk, lent, granted, answered⟩ := orderly.grant served inRange asks houses
  have lending := orderly.lend
    (Int.toNat_natCast _ ▸ houses lender served (Int.natCast_nonneg _))
  rw [lent] at lending
  have grabbed := Action.grab_of_granted asks answered sequence
  dsimp only at grabbed
  generalize length_eq : Action.frameLength office sensor = length at *
  have here : (office.withDesk lender desk).lender lender = desk.lender :=
    (lender_withDesk ..).trans (if_pos ⟨rfl, inRange⟩)
  have loans := granted.loans
  rw [← here] at loans
  have member := loans.mem_iff.mpr List.mem_cons_self
  -- what is written beside the lenders leaves the desks in order
  have written := (@keeps_of_lenders (office.withDesk lender desk)
    { office.withDesk lender desk with
      arena := desk.arena.write block.address (Sensor.frameContents sequence length) }
    rfl (Nat.le_refl desk.arena.identities)).1.2 rented lending
  have stamps : ∀ index < length, (desk.arena.memory.put block.address
      (Sensor.frameContents sequence length)).byte (block.address + index) =
        Sensor.stamp sequence index :=
    fun index within => Memory.byte_put_frame _ _ sequence within
  have untouched : ∀ address ∉ Set.Ico block.address (block.address + length),
      (desk.arena.memory.put block.address (Sensor.frameContents sequence length)).byte address =
        desk.arena.memory.byte address := fun address outside => by
    rw [Memory.byte_put, Sensor.size_frameContents]
    exact if_neg outside
  refine ⟨_, _, grabbed,
    { length := length_eq.symm
      bytes := stamps
      tracked := ⟨block, rfl, ?_, loans⟩
      others := fun other different =>
        (lender_withDesk ..).trans (if_neg fun same => different same.1.symm)
      inside := ⟨_, answered, rfl, untouched⟩
      outside := fun address outside => ?_
      windows := fun offset count solid inside =>
        written.windowed ⟨_, member, rfl, rfl, rfl⟩ short stamps solid inside }⟩
  · have size := office.size_withDesk lender desk
    obtain ⟨record, housed⟩ := lending lender (inRange.trans_eq size.symm)
    exact housed.tended.accounted.within _ member
  · refine (untouched address fun inside => outside ⟨inside.1, ?_⟩).trans
      (Desk.byte_lend lent outside)
    exact Nat.lt_of_lt_of_le inside.2 (Nat.add_le_add_left (Nat.le_max_left ..) _)

/-- A sensor over a heap that has a place for the frame, if it asks for one. -/
theorem Orderly.stamping (manned : office.Manned)
    (houses : office.asks sensor = true →
      office.Houses rented (Action.frameLength office sensor)) (sequence : UInt64) :
    office.Stamping sensor sequence where
  stopped stopped := by rw [Action.grab_eq, if_pos stopped]
  unconnected running unconnected := by
    unfold Office.connected at unconnected
    rw [Action.grab_eq, running, if_neg Bool.noConfusion, if_pos unconnected]
  long running connected long := by
    unfold Office.connected at connected
    rw [Action.grab_eq, running, connected, if_neg Bool.noConfusion, if_neg Bool.noConfusion,
      if_pos long]
  unserved asks free := by
    have asked : Action.answerAllocate (Action.frameLength office sensor) true office =
        (.ok none, (Action.log .allocateUnserved office).2) := by
      unfold Action.answerAllocate
      rw [Action.run_get_bind, free]
      rfl
    rw [Action.grab_of_asks asks, asked]
    rfl
  stamped asks lender served :=
    orderly.stamped served (manned.inRange served) asks (houses asks)

end Grab

end Office

namespace Process

/-- Whatever process has run over a heap, a sensor that takes a frame stamps it, and one that cannot
leaves everything as it was. -/
theorem stamping_run (arena : Arena) (policies : List Policy) {tasks : List Task}
    (houses : Throughout take Houses (start arena policies) tasks)
    (going : ((start arena policies).run tasks).ended = false)
    (places : List Nat) (sensor : Nat) (sequence : UInt64)
    (room : (((start arena policies).run tasks).ready places).asks sensor = true →
      ((start arena policies).run tasks).Houses (.errand (.grab sensor sequence) places)) :
    (((start arena policies).run tasks).ready places).Stamping sensor sequence := by
  have running := running_run arena policies houses going
  generalize (start arena policies).run tasks = process at running room ⊢
  have keeps : process.office.Keeps (process.ready places) :=
    Office.keeps_of_lenders rfl (Nat.le_refl process.office.arena.identities)
  have same : (process.ready places).post = process.office.post := rfl
  exact (keeps.inOrder running.inOrder).orderly.stamping (running.manned.of_post same) room sequence

/-- A frame of five bytes in a block of sixty-four that has been written full and taken back. -/
theorem stamping_recycled :
    let arena := Arena.startingAt 4096 16 16
    let tasks : List Task := [.errand (.makeSensor 5 0) [], .errand (.openSession 0 0) [],
      .errand (.allocate 64 true) [4096], .turn 0 ⟨.write 4096 [Run.fill 170 64], 0⟩,
      .errand (.free 4096 ⟨1⟩) []]
    let process := (start arena [Policy.standard]).run tasks
    let office := process.ready []
    Throughout take Houses (start arena [Policy.standard]) tasks ∧ process.ended = false ∧
      process.Houses (.errand (.grab 0 0x0123456789abcdef) []) ∧
      office.Stamping 0 0x0123456789abcdef ∧
      office.asks 0 = true ∧ office.served = some 0 ∧
      (Action.grab 0 0x0123456789abcdef office).1.toOption = some ⟨4096, ⟨2⟩, 5⟩ ∧
      (Action.grab 0 0x0123456789abcdef office).2.arena.memory.bytes 4096 8 =
        [0xef, 0xcd, 0xab, 0x89, 0x67, 170, 170, 170] := by
  intro arena tasks process office
  have houses : Throughout take Houses (start arena [Policy.standard]) tasks := by
    decide +kernel
  have going : process.ended = false := by decide +kernel
  have room : process.Houses (.errand (.grab 0 0x0123456789abcdef) []) := by decide +kernel
  have stamping : office.Stamping 0 0x0123456789abcdef :=
    stamping_run arena [Policy.standard] houses going [] 0 0x0123456789abcdef fun _ => room
  refine ⟨houses, going, room, stamping, ?_, ?_, ?_, ?_⟩ <;> decide +kernel

end Process

end MemoryLending
