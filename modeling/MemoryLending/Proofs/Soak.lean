/-
This file runs a whole soak, from a new process to its end. With at most one worker, settings whose
products are machine words and a heap that has places, the run reports every frame, and how the
reserve did. The sweep at its end tells the session and the captures that were kept to retire, and
nobody else. Then nothing is on loan, nobody holds a replica, and the process ends well.
-/

import MemoryLending.Proofs.Clearing
import MemoryLending.Proofs.Frames
import MemoryLending.Soak.Program

namespace MemoryLending

/-! ### Settings that can be served -/

namespace Settings

variable (settings : Settings) (arena : Arena) (frameLength : Nat)

/-- What a run needs of its settings. -/
structure Serviceable : Prop where
  threads : settings.threads ≤ 1
  length : settings.frameLength = .ok frameLength
  solid : frameLength ≠ 0
  short : frameLength ≤ Sensor.longestFrame
  walks : settings.iterations * Action.windowStride < Word.limit
  budget : settings.retainMebibytes * 2 ^ 20 < Word.limit

/-- The policy that the operator means. -/
def intended : Policy :=
  ⟨⟨settings.retainMebibytes * 1024 * 1024, settings.retainBlocks⟩, settings.unknownReturn⟩

theorem policy_eq {settings : Settings}
    (budget : settings.retainMebibytes * 2 ^ 20 < Word.limit) :
    settings.policy = .ok settings.intended := by
  have bytes : settings.retainMebibytes * 1024 * 1024 < Word.limit := by
    rw [Nat.mul_assoc]
    exact budget
  have kibibytes : settings.retainMebibytes * 1024 < Word.limit :=
    Nat.lt_of_le_of_lt (Nat.le_mul_of_pos_right _ (by decide)) bytes
  unfold policy product Word.mul?
  rw [if_pos kibibytes]
  show (do
    let bytes ← product (settings.retainMebibytes * 1024) 1024
    return ⟨⟨bytes, settings.retainBlocks⟩, settings.unknownReturn⟩ : Except Panic Policy) = _
  unfold product Word.mul?
  rw [if_pos bytes]
  rfl

/-- The office when the workers begin. -/
def began : Office :=
  (Action.log (.soakStarted settings.threads settings.iterations frameLength)
    (Studio.opened arena settings.intended frameLength settings.foreignBuffers).office).2

/-- The buffers that the sensor has of its own. -/
def buffers : List Block :=
  ((settings.began arena frameLength).sensors.getD 0 default).buffers

/-- The office when the turn of frame `index` comes. -/
def before (index : Nat) : Office :=
  (Action.workFrames 0 0 0 frameLength settings index 0 ⟨[], 0⟩
    (settings.began arena frameLength)).2

/-- The heap has placed the buffers of the sensor apart, and has places for each frame. -/
def Supplied : Prop :=
  Sensor.Placed (settings.buffers arena frameLength) ∧
    ∀ index < settings.threads * settings.iterations,
      (settings.before arena frameLength index).Feeds (settings.buffers arena frameLength)
        frameLength index

instance decidableSupplied : Decidable (settings.Supplied arena frameLength) :=
  inferInstanceAs (Decidable (_ ∧ _))

/-! ### The beginning -/

variable {settings arena frameLength}

section Table

variable (table : settings.foreignBuffers * Sensor.entryLength ≤ Word.longestBlock)

include table

theorem buffers_eq : settings.buffers arena frameLength =
    (Sensor.placeBuffers arena settings.foreignBuffers 0).2 := by
  unfold buffers began Studio.opened
  rw [Studio.opening_start arena settings.intended frameLength table]
  rfl

theorem capacity_of_mem {buffer : Block} (member : buffer ∈ settings.buffers arena frameLength) :
    buffer.capacity = Sensor.bufferLength := by
  rw [buffers_eq table] at member
  exact (Sensor.mem_placeBuffers member).1

theorem buffers_eq_nil :
    settings.buffers arena frameLength = [] ↔ settings.foreignBuffers = 0 := by
  rw [buffers_eq table, ← List.length_eq_zero_iff, Sensor.length_placeBuffers]

/-- How often the reserve is asked by all frames together. -/
theorem requests_eq : settings.threads * settings.iterations *
      Sensor.requests (settings.buffers arena frameLength) =
    if settings.foreignBuffers = 0 then settings.threads * settings.iterations
    else 2 * (settings.threads * settings.iterations) := by
  unfold Sensor.requests
  simp only [buffers_eq_nil table]
  split
  · exact Nat.mul_one _
  · exact Nat.mul_comm _ 2

/-- A run begins in good order: the buffers are out of the lender's hands, and nothing is on
loan. -/
theorem soaking_began (placed : Sensor.Placed (settings.buffers arena frameLength)) :
    (settings.began arena frameLength).Soaking (settings.buffers arena frameLength) frameLength
      [] 0 := by
  rw [buffers_eq table] at placed ⊢
  unfold began Studio.opened
  rw [Studio.opening_start arena settings.intended frameLength table]
  refine
    { orderly := fun lender inRange => ?_
      captured := ⟨[], ?_, nofun⟩
      crew := ?_
      resting := ?_
      sensors := rfl
      served := rfl
      sweeps := rfl }
  · obtain rfl : lender = 0 := Nat.lt_one_iff.mp inRange
    have housed := Trade.housed_premises settings.intended placed
    exact ⟨[], housed.beside ⟨_, ⟨[0], Roster.sweepFloor⟩, true, _, Nat.le_refl _, rfl⟩⟩
  · refine Studio.captured_nil rfl (fun _ => rfl) (fun id stake has => ?_) rfl rfl
    cases id with
    | zero =>
      cases has
      rfl
    | succ id => cases has
  · refine ⟨rfl, List.nodup_singleton 0, fun id member => ?_, fun id member => ?_⟩ <;>
      rw [List.mem_singleton.mp member] <;> rfl
  · exact ⟨rfl, rfl, rfl, (Lender.resting_ofPolicy settings.intended).balances⟩

end Table

/-! ### The workers -/

section Workers

variable (serviceable : settings.Serviceable frameLength)
  (table : settings.foreignBuffers * Sensor.entryLength ≤ Word.longestBlock)
  (supplied : settings.Supplied arena frameLength)

include serviceable table supplied

/-- The one worker, if there is one, comes to its end with one capture out of `leakEvery`. -/
theorem workAll_began :
    ∃ kept after, (Action.workAll 0 0 settings settings.threads 0 >>= Action.collect [])
        (settings.began arena frameLength) = (.ok kept.reverse, after) ∧
      after.Soaking (settings.buffers arena frameLength) frameLength kept
        (settings.threads * settings.iterations *
          Sensor.requests (settings.buffers arena frameLength)) ∧
      kept.length = settings.threads * (settings.iterations / settings.leakEvery) ∧
      ∀ index < settings.threads * settings.iterations,
        (settings.before arena frameLength index).Shows (settings.buffers arena frameLength)
          settings frameLength index := by
  have soaking := @soaking_began settings arena frameLength table supplied.1
  have feeds := supplied.2
  rcases Nat.le_one_iff_eq_zero_or_eq_one.mp serviceable.threads with none | one
  · rw [none, Nat.zero_mul, Nat.zero_mul, Nat.zero_mul]
    exact ⟨[], _, rfl, soaking, rfl, nofun⟩
  · rw [one, Nat.one_mul] at feeds ⊢
    rw [Nat.one_mul]
    obtain ⟨kept, checksum, after, ran, soaking', turns, shows⟩ :=
      @Office.Soaking.workFrames _ _ _ [] 0 0 settings settings.iterations 0 soaking
        serviceable.solid serviceable.short (fun _ => capacity_of_mem table)
        (by rw [Nat.zero_add]; exact serviceable.walks) (Nat.zero_div _).symm
        fun index bound => by rw [Nat.zero_add]; exact feeds index bound
    rw [Nat.zero_add] at soaking' turns
    have worked : Action.work 0 0 0 settings (settings.began arena frameLength) =
        (.ok kept.reverse, (Action.log (.workerFinished 0 checksum kept.length) after).2) := by
      unfold Action.work
      rw [serviceable.length]
      dsimp only
      rw [Action.run_bind_of_ok ran]
      rfl
    refine ⟨kept, _, ?_, soaking'.log (.workerFinished 0 checksum kept.length) rfl, turns,
      fun index bound => ?_⟩
    · rw [Action.run_bind, Action.workAll, Action.run_bind, Action.run_tryCatch,
        Action.run_bind_of_ok worked]
      rfl
    · have shown := shows index bound
      rw [Nat.zero_add] at shown
      exact shown

end Workers

end Settings

/-! ### The end -/

namespace Office.Soaking

variable {office : Office} {buffers : List Block} {frameLength asked : Nat}
  {kept : List WrapperId} (soaking : office.Soaking buffers frameLength kept asked)

include soaking

/-- While the captures that were kept are still held, the run is swept and summed up. -/
theorem finishSoak {settings : Settings}
    (frames : settings.threads * settings.iterations < Word.limit) :
    ∃ captures after, Action.finishSoak 0 0 kept.reverse settings office =
        (.ok ⟨settings.threads * settings.iterations, (office.lender 0).reserve.tally,
          ⟨1 + kept.length, 0⟩⟩, after) ∧
      after.Cleared captures (fun _ => Sensor.premises buffers) asked := by
  let complete := Event.capturesComplete (office.lender 0).loans.count (office.livingCount 0)
    (office.lender 0).replicas.count
  obtain ⟨captures, after, swept, cleared, released⟩ := (soaking.log complete rfl).sweep
  have none : (kept.reverse.filter fun capture => !after.released capture).length = 0 := by
    rw [List.length_eq_zero_iff, List.filter_eq_nil_iff]
    intro capture member
    rw [released capture (List.mem_cons_of_mem 0 member)]
    exact Bool.false_ne_true
  have logged : Action.log complete office = (.ok (), (Action.log complete office).2) := rfl
  refine ⟨captures, after, ?_, cleared⟩
  unfold Action.finishSoak
  rw [Action.run_get_bind]
  dsimp only
  rw [Action.run_bind_of_ok logged, Action.run_bind_of_ok swept, Action.run_get_bind]
  rw [none, released 0 List.mem_cons_self, if_neg (by decide),
    Action.run_bind_of_ok (Action.product_of_lt frames after)]
  rfl

end Office.Soaking

/-! ### The whole run -/

namespace Settings

/-- What a soak run comes to. -/
structure Soaked (settings : Settings) (arena : Arena) (frameLength : Nat)
    (summary : SoakSummary) (soaked ended : Office) : Prop where
  ran : Action.soak settings (Office.start arena []) = (.ok summary, soaked)
  /-- The sweep at the end of the process succeeds. -/
  exited : Action.exit soaked = (.ok (), ended)
  finished : runSoak arena settings = (.finished summary, ended.journal)
  frames : summary.frames = settings.threads * settings.iterations
  requests : summary.tally.requests.toNat =
    if settings.foreignBuffers = 0 then settings.threads * settings.iterations
    else 2 * (settings.threads * settings.iterations)
  answers : summary.tally.hits.toNat + summary.tally.misses.toNat = summary.tally.requests.toNat
  retired : summary.report.retired =
    1 + settings.threads * (settings.iterations / settings.leakEvery)
  pruned : summary.report.pruned = 0
  /-- Each frame, when its turn comes, shows its window in place, and no buffer of the sensor. -/
  shows : ∀ index < settings.threads * settings.iterations,
    (settings.before arena frameLength index).Shows (settings.buffers arena frameLength) settings
      frameLength index
  /-- Afterwards nothing is on loan, and nobody holds a replica. -/
  loans : (soaked.lender 0).loans.count = 0 ∧ (ended.lender 0).loans.count = 0
  replicas : (soaked.lender 0).replicas.count = 0 ∧ (ended.lender 0).replicas.count = 0

variable {settings : Settings} {arena : Arena} {frameLength : Nat}

section Whole

variable (serviceable : settings.Serviceable frameLength)

include serviceable

/-- How many frames a run takes is a machine word, and so is twice as many. -/
theorem Serviceable.few : 2 * (settings.threads * settings.iterations) < Word.limit := by
  have walks := serviceable.walks
  have once : settings.threads * settings.iterations ≤ 1 * settings.iterations :=
    Nat.mul_le_mul_right _ serviceable.threads
  unfold Action.windowStride at walks
  omega

/-- A session is its workers, its summary while their captures are held, and then no more. -/
theorem runSession_of_finished {summary : SoakSummary} {kept : List WrapperId}
    {worked swept released : Office}
    (ran : (Action.workAll 0 0 settings settings.threads 0 >>= Action.collect [])
      (settings.began arena frameLength) = (.ok kept, worked))
    (finished : Action.finishSoak 0 0 kept settings worked = (.ok summary, swept))
    (left : Action.letGoAll kept swept = (.ok (), released)) :
    Action.runSession 0 0 0 settings frameLength
      (Studio.opened arena settings.intended frameLength settings.foreignBuffers).office =
        (.ok summary, released) := by
  have began : Action.log (.soakStarted settings.threads settings.iterations frameLength)
      (Studio.opened arena settings.intended frameLength settings.foreignBuffers).office =
        (.ok (), settings.began arena frameLength) := rfl
  have handles : ¬Word.longestBlock < settings.threads * Action.handleLength :=
    Nat.not_lt_of_le ((Nat.mul_le_mul_right _ serviceable.threads).trans (by decide))
  unfold Action.runSession
  rw [Action.run_bind_of_ok began, if_neg handles]
  dsimp only
  rw [← bind_assoc, Action.run_bind_of_ok ran]
  exact Action.thenLetGo_of_ok finished left

/-- A soak run is its session, from the opening until the session is let go of. -/
theorem soak_of_session {summary : SoakSummary} {worked soaked : Office}
    (table : settings.foreignBuffers * Sensor.entryLength ≤ Word.longestBlock)
    (session : Action.runSession 0 0 0 settings frameLength
      (Studio.opened arena settings.intended frameLength settings.foreignBuffers).office =
        (.ok summary, worked))
    (left : Action.letGoAll [0] worked = (.ok (), soaked)) :
    Action.soak settings (Office.start arena []) = (.ok summary, soaked) := by
  have made := Studio.makeSensor_start arena settings.intended frameLength table
  have opened : Action.openSession 0 0 (Studio.equipped
      (Sensor.placeBuffers arena settings.foreignBuffers 0).1 settings.intended frameLength
        (Sensor.placeBuffers arena settings.foreignBuffers 0).2) =
      (.ok 0,
        (Studio.opened arena settings.intended frameLength settings.foreignBuffers).office) := by
    unfold Studio.opened
    rw [Studio.opening_start arena settings.intended frameLength table]
    exact Studio.openSession_equipped _ settings.intended frameLength _
  have lender : (modifyGet fun office : Office => (office.lenders.size,
      { office with lenders := office.lenders.push (Lender.ofPolicy settings.intended) }) :
      Action Nat) (Office.start arena []) = (.ok 0, Office.start arena [settings.intended]) := rfl
  unfold Action.soak
  rw [serviceable.length, policy_eq serviceable.budget]
  dsimp only [Action.orPanic]
  rw [pure_bind, if_neg serviceable.solid, pure_bind, Action.run_bind_of_ok lender,
    Action.run_bind_of_ok made, Action.run_bind_of_ok opened]
  exact Action.thenLetGo_of_ok session left

end Whole

/-- Over a heap that has places, a soak run with at most one worker comes to its end, whatever it
keeps and however much the reserve may keep: every frame is counted, the reserve is asked once or
twice for each of them, the captures that were kept and the session are told to retire, and
nothing is left. -/
theorem soaked_of_supplied (serviceable : settings.Serviceable frameLength)
    (table : settings.foreignBuffers * Sensor.entryLength ≤ Word.longestBlock)
    (supplied : settings.Supplied arena frameLength) :
    ∃ summary soaked ended, settings.Soaked arena frameLength summary soaked ended := by
  obtain ⟨kept, worked, ran, soaking, turns, shows⟩ := workAll_began serviceable table supplied
  have few := serviceable.few
  obtain ⟨captures, swept, finished, cleared⟩ :=
    @Office.Soaking.finishSoak _ _ _ _ _ soaking settings (by omega)
  obtain ⟨released, left, cleared⟩ := cleared.letGoAll kept.reverse
  obtain ⟨soaked, gone, cleared'⟩ := cleared.letGoAll [0]
  obtain ⟨ended, exited, cleared''⟩ := cleared'.exit
  have session := runSession_of_finished serviceable ran finished left
  have ran := soak_of_session serviceable table session gone
  obtain ⟨returned, balances⟩ := soaking.resting.balances
  rw [requests_eq table] at balances
  have fits : (if settings.foreignBuffers = 0 then settings.threads * settings.iterations
      else 2 * (settings.threads * settings.iterations)) < UInt64.size := by
    refine Nat.lt_of_le_of_lt ?_ few
    split <;> omega
  obtain ⟨requests, answers⟩ := balances.exact_requests fits
  refine ⟨_, soaked, ended,
    { ran := ran
      exited := exited
      finished := ?_
      frames := rfl
      requests := requests
      answers := answers.trans requests.symm
      retired := congrArg (1 + ·) turns
      pruned := rfl
      shows := shows
      loans := ⟨cleared'.count_loans, cleared''.count_loans⟩
      replicas := ⟨cleared'.count_replicas, cleared''.count_replicas⟩ }⟩
  unfold runSoak
  rw [ran]
  dsimp only
  rw [exited]

/-- Three frames of eight bytes, one buffer, and every second capture is kept: the reserve is asked
six times, the sweep tells the session and one capture, and nothing is left. -/
theorem soaked_of_supplied_small :
    let settings := { standard with
      threads := 1, iterations := 3, frameSize := [2, 2], foreignBuffers := 1, leakEvery := 2 }
    settings.Serviceable 8 ∧ settings.Supplied soakArena 8 ∧
      (∃ summary soaked ended, settings.Soaked soakArena 8 summary soaked ended) ∧
        (runSoak soakArena settings).1 = .finished ⟨3, ⟨6, 3, 3, 5, 0⟩, ⟨2, 0⟩⟩ := by
  intro settings
  have serviceable : settings.Serviceable 8 :=
    ⟨by decide, rfl, by decide, by decide, by decide, by decide⟩
  have supplied : settings.Supplied soakArena 8 := by decide +kernel
  exact ⟨serviceable, supplied, soaked_of_supplied serviceable (by decide) supplied,
    by decide +kernel⟩

/-- No block can hold a table of `2 ^ 59` buffers, so with as many the run panics, although the heap
has places for whatever it is asked. -/
theorem not_soaked_of_many_buffers :
    let settings := { standard with
      threads := 1, iterations := 2, frameSize := [8, 4], foreignBuffers := 2 ^ 59 }
    settings.Serviceable 64 ∧ settings.Supplied soakArena 64 ∧
      runSoak soakArena settings = (.panicked .capacityOverflow, []) ∧
        ¬∃ summary soaked ended, settings.Soaked soakArena 64 summary soaked ended := by
  intro settings
  have panicked : runSoak soakArena settings = (.panicked .capacityOverflow, []) := by
    decide +kernel
  refine ⟨⟨by decide, rfl, by decide, by decide, by decide, by decide⟩, by decide +kernel, panicked,
    fun ⟨summary, soaked, ended, run⟩ => ?_⟩
  cases panicked.symm.trans run.finished

end Settings

end MemoryLending
