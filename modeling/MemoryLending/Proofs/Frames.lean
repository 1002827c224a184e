/-
This file runs the worker of a soak run, frame after frame. The window of a frame wanders, and never
leaves the frame; it is read in place. The buffer of the sensor whose turn it is belongs to no loan
and is read through a lease. A frame whose turn it is stays captured, any other is handed back, and
then the next frame is taken in the same situation. So the worker comes to its end with as many
captures as there were turns.
-/

import MemoryLending.Proofs.Soaking

namespace MemoryLending

/-! ### What a frame needs -/

namespace Sensor

/-- Where the window of frame `index` begins. -/
def windowStart (frameLength index : Nat) : Nat :=
  index * Action.windowStride % (frameLength - min frameLength Action.longestWindow + 1)

/-- The window wanders, but it never leaves the frame. -/
theorem window_inside (frameLength index : Nat) :
    windowStart frameLength index + min frameLength Action.longestWindow ≤ frameLength := by
  have before : windowStart frameLength index <
      frameLength - min frameLength Action.longestWindow + 1 := Nat.mod_lt _ (Nat.succ_pos _)
  have window := Nat.min_le_left frameLength Action.longestWindow
  omega

theorem window_solid {frameLength : Nat} (solid : frameLength ≠ 0) :
    min frameLength Action.longestWindow ≠ 0 :=
  Nat.ne_of_gt (Nat.lt_min.mpr ⟨Nat.pos_of_ne_zero solid, by decide⟩)

/-- The buffer whose turn it is at frame `index`. -/
def turn (buffers : List Block) (index : Nat) : Block :=
  buffers.getD (index % buffers.length) default

theorem turn_mem {buffers : List Block} (some : buffers ≠ []) (index : Nat) :
    turn buffers index ∈ buffers := by
  have inside : index % buffers.length < buffers.length :=
    Nat.mod_lt _ (List.length_pos_iff.mpr some)
  unfold turn
  rw [List.getD_eq_getElem _ _ inside]
  exact List.getElem_mem inside

/-- How many blocks the reserve is asked for by each frame. -/
def requests (buffers : List Block) : Nat := if buffers = [] then 1 else 2

end Sensor

namespace Action

/-- Sums up the window of a captured frame and reads the buffer whose turn it is. -/
def readFrame (capture : WrapperId) (index sequence frameLength : Nat) : Action UInt64 := do
  let window := min frameLength longestWindow
  let distance ← product index windowStride
  let offset := distance % (frameLength - window + 1)
  let own := UInt64.ofNat (← windowSum capture offset window)
  if (← Action.sensor 0).buffers.isEmpty then return own
  return own + (← readForeign 0 0 sequence)

theorem takeFrame_bind {Answer : Type} (next : WrapperId → Action Answer) (sequence : Nat) :
    (grab 0 (UInt64.ofNat sequence) >>= fun frame => makeCapture 0 0 frame >>= next) =
      takeFrame sequence >>= fun taken => next taken.2 := by
  unfold takeFrame
  simp only [bind_assoc, pure_bind]

theorem workFrame_of_read {office taken after : Office} {index frameLength : Nat} {frame : Frame}
    {id : WrapperId} {part : UInt64} (walks : index * windowStride < Word.limit)
    (took : takeFrame index office = (.ok (frame, id), taken))
    (read : readFrame id index index frameLength taken = (.ok part, after)) (settings : Settings) :
    workFrame 0 0 0 index frameLength settings office = (.ok (id, part), after) := by
  have first : 0 * settings.iterations + index < Word.limit := by
    unfold windowStride at walks
    omega
  unfold workFrame
  rw [run_bind_of_ok (product_of_lt (by omega) office), run_bind_of_ok (sum_of_lt first office),
    Nat.zero_mul, Nat.zero_add, takeFrame_bind, run_bind_of_ok took]
  dsimp only
  unfold readFrame at read
  dsimp only at read
  rw [run_bind, run_tryCatch, run_bind_of_ok read]
  rfl

theorem workFrames_of_ok {office worked : Office} {index frameLength : Nat} {settings : Settings}
    {id : WrapperId} {part : UInt64}
    (ran : workFrame 0 0 0 index frameLength settings office = (.ok (id, part), worked))
    (count : Nat) (kept : List WrapperId) (checksum : UInt64) :
    workFrames 0 0 0 frameLength settings (count + 1) index ⟨kept, checksum⟩ office =
      (if keeps settings index then
        workFrames 0 0 0 frameLength settings count (index + 1) ⟨id :: kept, checksum + part⟩
      else
        letGo id >>= fun _ => workFrames 0 0 0 frameLength settings count (index + 1)
          ⟨kept, checksum + part⟩) worked := by
  rw [workFrames, run_bind, run_tryCatch, ran]

/-- One capture out of `leakEvery` is kept, the last one of them. -/
theorem kept_succ (settings : Settings) (index : Nat) :
    index / settings.leakEvery + (keeps settings index).toNat =
      (index + 1) / settings.leakEvery := by
  unfold keeps
  generalize settings.leakEvery = every
  rcases Nat.eq_zero_or_pos every with rfl | some
  · rw [Nat.div_zero, Nat.div_zero]
    rfl
  have below := Nat.mod_lt index some
  have next : (index + 1) % every = (index % every + 1) % every :=
    (Nat.mod_add_mod index every 1).symm
  rw [Nat.succ_div, decide_eq_true some, Bool.true_and]
  by_cases last : index % every = every - 1
  · have whole : index % every + 1 = every := by omega
    rw [whole, Nat.mod_self] at next
    rw [if_pos (Nat.dvd_of_mod_eq_zero next), last, BEq.rfl]
    rfl
  · rw [Nat.mod_eq_of_lt (by omega : index % every + 1 < every)] at next
    rw [if_neg fun divides => Nat.succ_ne_zero _ (next.symm.trans (Nat.mod_eq_zero_of_dvd divides)),
      beq_false_of_ne last]
    rfl
end Action

namespace Office

/-- The heap has places for frame `index`: for its block and, once it has been taken, for a copy of
the buffer whose turn it is. -/
def Feeds (office : Office) (buffers : List Block) (frameLength index : Nat) : Prop :=
  office.Houses (fun _ => Sensor.premises buffers) frameLength ∧
    (buffers ≠ [] →
      let taken := (Action.takeFrame index office).2
      (taken.tradeOf 0 (Sensor.premises buffers) []).Houses
        ⟨.reach (Sensor.turn buffers index).address (Sensor.turn buffers index).capacity,
          taken.arena.nextAddress⟩)

instance decidableFeeds (office : Office) (buffers : List Block) (frameLength index : Nat) :
    Decidable (office.Feeds buffers frameLength index) :=
  inferInstanceAs (Decidable (_ ∧ (_ → _)))

/-- The work on frame `index` comes to its end. Once the frame has been taken, its window is inside
and is reached in place, and no address in a buffer of the sensor is. -/
structure Shows (office : Office) (buffers : List Block) (settings : Settings)
    (frameLength index : Nat) : Prop where
  worked : ∃ part, (Action.workFrame 0 0 0 index frameLength settings office).1 =
    .ok (office.wrappers.size, part)
  window : ∃ frame view,
    (Action.takeFrame index office).1 = .ok (frame, office.wrappers.size) ∧
    frame.length = frameLength ∧
    Sensor.windowStart frameLength index + min frameLength Action.longestWindow ≤ frame.length ∧
    (((Action.takeFrame index office).2.desk 0).reach
      (frame.address + Sensor.windowStart frameLength index)
      (min frameLength Action.longestWindow)).1 = .ok (.inPlace view)
  foreign : ∀ buffer ∈ buffers, ∀ address ∈ buffer.range, ∀ size,
    (((Action.takeFrame index office).2.desk 0).openView address size).1 = none

namespace Soaking

variable {office : Office} {buffers : List Block} {frameLength : Nat} {kept : List WrapperId}
  {asked index : Nat}

section Frame

variable (soaking : office.Soaking buffers frameLength kept asked)
  (solid : frameLength ≠ 0) (short : frameLength ≤ Sensor.longestFrame)
  (feeds : office.Feeds buffers frameLength index)

include soaking solid short feeds

omit soaking feeds short in
/-- The window of a frame that has been captured is summed up, and a buffer is read. -/
theorem readFrame {id : WrapperId} {frame : Frame}
    (soaking : office.Soaking buffers frameLength kept asked)
    (fresh : Fresh office id frame frameLength)
    (alike : ∀ buffer ∈ buffers, buffer.capacity = Sensor.bufferLength)
    (walks : index * Action.windowStride < Word.limit)
    (turn : buffers ≠ [] → (office.tradeOf 0 (Sensor.premises buffers) []).Houses
      ⟨.reach (Sensor.turn buffers index).address (Sensor.turn buffers index).capacity,
        office.arena.nextAddress⟩) :
    ∃ part read, Action.readFrame id index index frameLength office = (.ok part, read) ∧
      read.Soaking buffers frameLength kept (asked + if buffers = [] then 0 else 1) ∧
      read.wrappers = office.wrappers := by
  have inside := Sensor.window_inside frameLength index
  have window := Sensor.window_solid solid
  have summed :=
    soaking.orderly.windowSum_eq fresh.lends fresh.found (inside.trans_eq fresh.length.symm) window
  have sensor : Action.sensor 0 office = (.ok ⟨true, frameLength, buffers, true⟩, office) :=
    soaking.sensor_eq ▸ rfl
  unfold Sensor.windowStart at summed
  unfold Action.readFrame
  rw [Action.run_bind_of_ok (Action.product_of_lt walks office), Action.run_bind_of_ok summed,
    Action.run_bind_of_ok sensor]
  dsimp only
  by_cases none : buffers = []
  · rw [if_pos (List.isEmpty_iff.mpr none), if_pos none]
    exact ⟨_, office, rfl, soaking, rfl⟩
  · have member := Sensor.turn_mem none index
    have capacity := alike _ member
    obtain ⟨byte, read, shown, soaking', same⟩ := soaking.readForeign member rfl (turn none)
      (capacity.trans_ne (by decide)) (capacity.trans_le (by decide))
    rw [if_neg (none ∘ List.isEmpty_iff.mp), if_neg none, Action.run_bind_of_ok shown]
    exact ⟨_, read, rfl, soaking', same⟩

/-- Frame `index` is taken, captured and read. -/
theorem workFrame (settings : Settings)
    (alike : ∀ buffer ∈ buffers, buffer.capacity = Sensor.bufferLength)
    (walks : index * Action.windowStride < Word.limit) :
    ∃ part frame worked, Action.workFrame 0 0 0 index frameLength settings office =
        (.ok (office.wrappers.size, part), worked) ∧
      worked.Soaking buffers frameLength (office.wrappers.size :: kept)
        (asked + Sensor.requests buffers) ∧
      worked.wrappers[office.wrappers.size]? =
        some ⟨"", 0, .capture 0 (some frame), ReleaseFlag.held, 1⟩ := by
  obtain ⟨frame, taken, took, soaking', fresh⟩ := soaking.takeFrame short feeds.1 solid index
  have turn := feeds.2
  rw [took] at turn
  obtain ⟨part, worked, read, soaking'', same⟩ :=
    readFrame solid soaking' fresh alike walks turn
  have asking : asked + 1 + (if buffers = [] then 0 else 1) = asked + Sensor.requests buffers := by
    unfold Sensor.requests
    split <;> rfl
  exact ⟨part, frame, worked, Action.workFrame_of_read walks took read settings,
    asking ▸ soaking'', same ▸ fresh.found⟩

/-- The window of a frame lies in the loan of the frame, and the buffers of the sensor in none. -/
theorem shows (settings : Settings)
    (alike : ∀ buffer ∈ buffers, buffer.capacity = Sensor.bufferLength)
    (walks : index * Action.windowStride < Word.limit) :
    office.Shows buffers settings frameLength index := by
  obtain ⟨part, -, worked, ran, -⟩ := soaking.workFrame solid short feeds settings alike walks
  obtain ⟨frame, taken, took, soaking', fresh⟩ := soaking.takeFrame short feeds.1 solid index
  have inside := Sensor.window_inside frameLength index
  have window := Sensor.window_solid solid
  rw [← fresh.length] at inside
  obtain ⟨loan, -, -, reached⟩ :=
    soaking'.orderly.reach_window fresh.lends inside (fresh.length ▸ window)
  rw [fresh.length] at inside reached
  refine ⟨⟨part, congrArg Prod.fst ran⟩, ?_, fun buffer member address lies size => ?_⟩ <;>
    rw [congrArg Prod.snd took]
  · exact ⟨frame, _, congrArg Prod.fst took, fresh.length, fresh.length.symm ▸ inside,
      congrArg Prod.fst reached⟩
  · have missing := soaking'.find?_eq_none member lies.1 lies.2 size
    unfold Desk.openView
    rw [show (taken.desk 0).lender.loans = (taken.lender 0).loans from rfl, missing]

/-- After a frame the worker goes on with the next one, in the same situation. -/
theorem workFrames_succ (settings : Settings)
    (alike : ∀ buffer ∈ buffers, buffer.capacity = Sensor.bufferLength)
    (walks : index * Action.windowStride < Word.limit) (checksum : UInt64) :
    ∃ kept' checksum' worked, (∀ count,
        Action.workFrames 0 0 0 frameLength settings (count + 1) index ⟨kept, checksum⟩ office =
          Action.workFrames 0 0 0 frameLength settings count (index + 1) ⟨kept', checksum'⟩
            worked) ∧
      worked.Soaking buffers frameLength kept' (asked + Sensor.requests buffers) ∧
      kept'.length = kept.length + (Action.keeps settings index).toNat := by
  obtain ⟨part, frame, worked, ran, soaking', found⟩ :=
    soaking.workFrame solid short feeds settings alike walks
  have goes := fun count => Action.workFrames_of_ok ran count kept checksum
  by_cases keeps : Action.keeps settings index = true
  · refine ⟨_, checksum + part, worked, fun count => ?_, soaking', ?_⟩
    · rw [goes, if_pos keeps]
    · rw [keeps]
      rfl
  · obtain ⟨after, left, soaking''⟩ := soaking'.letGo found
    refine ⟨kept, checksum + part, after, fun count => ?_, soaking'', ?_⟩
    · rw [goes, if_neg keeps, Action.run_bind_of_ok left]
    · rw [Bool.eq_false_of_not_eq_true keeps]
      rfl

end Frame

/-- A worker for whose frames the heap has places comes to its end, in the same situation. It keeps
one capture out of `leakEvery`. -/
theorem workFrames (settings : Settings) {count : Nat} {checksum : UInt64}
    (soaking : office.Soaking buffers frameLength kept asked)
    (solid : frameLength ≠ 0) (short : frameLength ≤ Sensor.longestFrame)
    (alike : ∀ buffer ∈ buffers, buffer.capacity = Sensor.bufferLength)
    (walks : (index + count) * Action.windowStride < Word.limit)
    (turns : kept.length = index / settings.leakEvery)
    (feeds : ∀ earlier < count, (Action.workFrames 0 0 0 frameLength settings earlier index
      ⟨kept, checksum⟩ office).2.Feeds buffers frameLength (index + earlier)) :
    ∃ kept' checksum' after, Action.workFrames 0 0 0 frameLength settings count index
        ⟨kept, checksum⟩ office = (.ok ⟨kept', checksum'⟩, after) ∧
      after.Soaking buffers frameLength kept' (asked + count * Sensor.requests buffers) ∧
      kept'.length = (index + count) / settings.leakEvery ∧
      ∀ earlier < count, (Action.workFrames 0 0 0 frameLength settings earlier index
        ⟨kept, checksum⟩ office).2.Shows buffers settings frameLength (index + earlier) := by
  induction count generalizing office kept asked index checksum with
  | zero =>
    refine ⟨kept, checksum, office, rfl, ?_, turns, nofun⟩
    rw [Nat.zero_mul]
    exact soaking
  | succ count inductionHypothesis =>
    -- what the first part of the run does after a frame is the first part of the rest of the run
    have first : office.Feeds buffers frameLength index := feeds 0 (Nat.succ_pos count)
    have here : index * Action.windowStride < Word.limit :=
      Nat.lt_of_le_of_lt (Nat.mul_le_mul_right _ (Nat.le_add_right _ _)) walks
    have shows := soaking.shows solid short first settings alike here
    obtain ⟨kept', checksum', worked, goes, soaking', more⟩ :=
      soaking.workFrames_succ solid short first settings alike here checksum
    rw [turns, Action.kept_succ] at more
    have index_eq : ∀ earlier, index + (earlier + 1) = index + 1 + earlier := by omega
    rw [index_eq] at walks
    have fed : ∀ earlier < count, (Action.workFrames 0 0 0 frameLength settings earlier (index + 1)
        ⟨kept', checksum'⟩ worked).2.Feeds buffers frameLength (index + 1 + earlier) := by
      intro earlier bound
      rw [← goes, ← index_eq]
      exact feeds (earlier + 1) (Nat.succ_lt_succ bound)
    obtain ⟨last, total, after, ran, soaking'', turns', later⟩ :=
      inductionHypothesis soaking' walks more fed
    refine ⟨last, total, after, (goes count).trans ran, ?_, index_eq count ▸ turns', fun
      | 0, _ => shows
      | earlier + 1, bound => ?_⟩
    · have asking : asked + Sensor.requests buffers + count * Sensor.requests buffers =
          asked + (count + 1) * Sensor.requests buffers := by
        rw [Nat.succ_mul]
        omega
      exact asking ▸ soaking''
    · rw [goes, index_eq earlier]
      exact later earlier (Nat.lt_of_succ_lt_succ bound)

end Soaking

end Office

end MemoryLending
