/-
This file says once what the callbacks can come to. The allocate callback answers null, or a loan
of the serving lender comes about; the free callback comes back after a loan was taken back, or
the process ends. No other fault ever reaches native code. Whatever a party asks for while it is
offered the callbacks, it leaves alone who serves.
-/

import MemoryLending.Proofs.Engagement

namespace MemoryLending

namespace Action

/-! ### The allocate callback -/

/-- What the allocate callback can come to. -/
inductive Allocating (office : Office) (size : Int) (hasContext : Bool) :
    Except Fault (Option Grant) × Office → Prop where
  | null (event : Event) (unmet : office.served = none ∨ size < 0 ∨ hasContext = false) :
      Allocating office size hasContext
        (.ok none, { office with journal := event :: office.journal })
  | granted (lender address : Nat) (token : Token) (desk : Desk)
      (served : office.served = some lender) (positive : 0 ≤ size) (given : hasContext = true)
      (lent : (office.desk lender).lend size.toNat = (.ok (address, token), desk)) :
      Allocating office size hasContext (.ok (some ⟨address, token⟩), office.withDesk lender desk)
  | refused (lender : Nat) (violation : Violation) (desk : Desk)
      (served : office.served = some lender) (positive : 0 ≤ size) (given : hasContext = true)
      (lent : (office.desk lender).lend size.toNat = (.error (.refused violation), desk)) :
      Allocating office size hasContext
        (.ok none,
          (log (.allocateFailed violation size.toNat) (office.withDesk lender desk)).2)
  | aborted (lender : Nat) (fault : Fault) (desk : Desk)
      (served : office.served = some lender) (positive : 0 ≤ size) (given : hasContext = true)
      (lent : (office.desk lender).lend size.toNat = (.error fault, desk)) :
      Allocating office size hasContext (.error .aborted, office.withDesk lender desk)

/-- A request that the serving lender is asked for, whatever comes of it. -/
theorem answerAllocate_of_served {office : Office} {size : Int} {lender : Nat}
    (served : office.served = some lender) (positive : 0 ≤ size) :
    answerAllocate size true office =
      match (office.desk lender).lend size.toNat with
      | (.ok (address, token), desk) =>
        (.ok (some ⟨address, token⟩), office.withDesk lender desk)
      | (.error (.refused violation), desk) =>
        (.ok none, (log (.allocateFailed violation size.toNat) (office.withDesk lender desk)).2)
      | (.error _, desk) => (.error .aborted, office.withDesk lender desk) := by
  have lent : atDesk lender (·.lend size.toNat) office =
      (((office.desk lender).lend size.toNat).1,
        office.withDesk lender ((office.desk lender).lend size.toNat).2) := rfl
  unfold answerAllocate
  rw [run_get_bind, served]
  dsimp only
  rw [if_neg (Int.not_lt.mpr positive), if_neg (by decide)]
  generalize (office.desk lender).lend size.toNat = result at lent
  generalize atDesk lender (·.lend size.toNat) = act at lent
  -- The early returns of the request are a second layer of faults, which is taken off here.
  simp only [tryCatch, tryCatchThe, MonadExceptOf.tryCatch, ExceptT.tryCatch, ExceptT.mk, bind,
    ExceptT.bind, ExceptT.bindCont, StateT.bind, ExceptT.run, lent]
  obtain ⟨(_ | _ | _ | _) | _, desk⟩ := result <;> rfl

theorem allocating (office : Office) (size : Int) (hasContext : Bool) :
    Allocating office size hasContext (answerAllocate size hasContext office) := by
  cases served : office.served with
  | none =>
    unfold answerAllocate
    rw [run_get_bind, served]
    exact .null .allocateUnserved (Or.inl served)
  | some lender =>
    by_cases negative : size < 0
    · unfold answerAllocate
      rw [run_get_bind, served]
      dsimp only
      rw [if_pos negative]
      exact .null _ (Or.inr (Or.inl negative))
    have positive := Int.not_lt.mp negative
    cases hasContext with
    | false =>
      unfold answerAllocate
      rw [run_get_bind, served]
      dsimp only
      rw [if_neg negative]
      exact .null _ (Or.inr (Or.inr rfl))
    | true =>
      rw [answerAllocate_of_served served positive]
      rcases lent : (office.desk lender).lend size.toNat with
        ⟨fault | ⟨address, token⟩, desk⟩
      · cases fault with
        | refused violation => exact .refused lender violation desk served positive rfl lent
        | complained complaint => exact .aborted lender _ desk served positive rfl lent
        | panicked panic => exact .aborted lender _ desk served positive rfl lent
        | aborted => exact .aborted lender _ desk served positive rfl lent
      · exact .granted lender address token desk served positive rfl lent

/-! ### The free callback -/

/-- What the free callback can come to. -/
inductive Freeing (office : Office) (address : Nat) (context : Token) :
    Except Fault Unit × Office → Prop where
  | unserved (free : office.served = none) :
      Freeing office address context (.error .aborted, (log .freeUnserved office).2)
  | returned (lender : Nat) (desk : Desk) (served : office.served = some lender)
      (reclaimed : (office.desk lender).reclaim address context = (.ok (), desk)) :
      Freeing office address context (.ok (), office.withDesk lender desk)
  | broke (lender : Nat) (violation : Violation) (desk : Desk)
      (served : office.served = some lender)
      (reclaimed : (office.desk lender).reclaim address context = (.error violation, desk)) :
      Freeing office address context
        (.error .aborted,
          (log (.freeBrokeContract violation) (office.withDesk lender desk)).2)

theorem freeing (office : Office) (address : Nat) (context : Token) :
    Freeing office address context (answerFree address context office) := by
  unfold answerFree
  rw [run_get_bind]
  cases served : office.served with
  | none => exact .unserved served
  | some lender =>
    dsimp only
    rw [run_tryCatch]
    unfold atDesk orRefuse
    dsimp only
    rcases reclaimed : (office.desk lender).reclaim address context with
      ⟨violation | ⟨⟩, desk⟩
    · exact .broke lender violation desk served reclaimed
    · exact .returned lender desk served reclaimed

/-! ### The sensor -/

/-- The length of the frames of a sensor. -/
def frameLength (office : Office) (index : Nat) : Nat :=
  (office.sensors.getD index default).frameLength

/-- What a sensor makes of the answer to its request for `length` bytes. -/
def received (sequence : UInt64) (length : Nat) :
    Except Fault (Option Grant) × Office → Except Fault Frame × Office
  | (.ok (some grant), after) =>
    (.ok ⟨grant.address, grant.context, length⟩,
      { after with
        arena := after.arena.write grant.address (Sensor.frameContents sequence length) })
  | (.ok none, after) => (.error (.complained (.allocationRefused length)), after)
  | (.error fault, after) => (.error fault, after)

/-- A sensor asks for memory only after it has checked that it is running, has its callbacks and
has frames that are short enough. -/
theorem grab_eq (office : Office) (index : Nat) (sequence : UInt64) :
    grab index sequence office =
      if (office.sensors.getD index default).running = false then
        (.error (.complained .sensorStopped), office)
      else if (office.sensors.getD index default).connected = false then
        (.error (.complained .noCallbacks), office)
      else if Sensor.longestFrame < frameLength office index then
        (.error (.complained .lengthTooLarge), office)
      else
        received sequence (frameLength office index)
          (answerAllocate (frameLength office index) true office) := by
  have found : sensor index office = (.ok (office.sensors.getD index default), office) := rfl
  unfold grab frameLength
  rw [run_bind_of_ok found]
  generalize office.sensors.getD index default = sensor
  obtain ⟨connected, length, buffers, running⟩ := sensor
  have met : ¬true = false := Bool.noConfusion
  cases running with
  | false => rfl
  | true =>
    cases connected with
    | false => rfl
    | true =>
      rw [if_neg met, if_neg met]
      by_cases long : Sensor.longestFrame < length
      · rw [if_pos long]
        dsimp only
        rw [if_pos long]
        rfl
      · rw [if_neg long]
        dsimp only
        rw [if_neg long]
        show (answerAllocate length true >>= _) office = _
        rcases asked : answerAllocate length true office with ⟨fault | (_ | grant), after⟩
        · exact run_bind_of_error asked
        · exact run_bind_of_ok asked
        · exact run_bind_of_ok asked

/-- What taking a frame can come to. -/
inductive Grabbing (office : Office) (index : Nat) (sequence : UInt64) :
    Except Fault Frame × Office → Prop where
  | complained (complaint : Complaint) :
      Grabbing office index sequence (.error (.complained complaint), office)
  | refused (after : Office)
      (asked : answerAllocate (frameLength office index) true office = (.ok none, after)) :
      Grabbing office index sequence
        (.error (.complained (.allocationRefused (frameLength office index))), after)
  | granted (grant : Grant) (after : Office)
      (asked : answerAllocate (frameLength office index) true office = (.ok (some grant), after)) :
      Grabbing office index sequence
        (.ok ⟨grant.address, grant.context, frameLength office index⟩,
          { after with
            arena := after.arena.write grant.address
              (Sensor.frameContents sequence (frameLength office index)) })
  | aborted (fault : Fault) (after : Office)
      (asked : answerAllocate (frameLength office index) true office = (.error fault, after)) :
      Grabbing office index sequence (.error fault, after)

theorem grabbing (office : Office) (index : Nat) (sequence : UInt64) :
    Grabbing office index sequence (grab index sequence office) := by
  rw [grab_eq]
  split
  · exact .complained .sensorStopped
  split
  · exact .complained .noCallbacks
  split
  · exact .complained .lengthTooLarge
  rcases asked : answerAllocate (frameLength office index) true office with
    ⟨fault | _ | grant, after⟩
  · exact .aborted fault after asked
  · exact .refused after asked
  · exact .granted grant after asked

theorem identities_placeBuffers (arena : Arena) (count index : Nat) :
    (Sensor.placeBuffers arena count index).1.identities = arena.identities + count := by
  induction count generalizing arena index with
  | zero => rfl
  | succ count inductionHypothesis =>
    unfold Sensor.placeBuffers
    dsimp only
    rw [inductionHypothesis]
    show (arena.place Sensor.bufferLength).identities + count = _
    rw [Arena.identities_place]
    omega

/-- A new sensor takes identities and places for its own buffers, and nothing else. -/
theorem makeSensor_eq (office : Office) (frameLength count : Nat) :
    ∃ arena sensors, office.arena.identities ≤ arena.identities ∧
      (makeSensor frameLength count office).2 = { office with arena, sensors } := by
  have identities := identities_placeBuffers office.arena count 0
  unfold makeSensor
  by_cases long : Word.longestBlock < count * Sensor.entryLength
  · rw [if_pos long]
    exact ⟨office.arena, office.sensors, Nat.le_refl _, rfl⟩
  · rw [if_neg long]
    exact ⟨_, _, identities ▸ Nat.le_add_right _ _, rfl⟩

/-! ### What a party does -/

end Action

/-- A relation that the requests of native code stay within. -/
structure Asks (Related : Office → Office → Prop) : Prop extends Chained Related where
  journal : ∀ office event, Related office { office with journal := event :: office.journal }
  arena : ∀ office arena, Related office { office with arena }
  sensors : ∀ office sensors, Related office { office with sensors }
  hosts : ∀ office hosts, Related office { office with hosts }
  lend : ∀ office lender size,
    Related office (office.withDesk lender ((office.desk lender).lend size).2)

namespace Asks

open MemoryLending.Action

variable {Related : Office → Office → Prop} (asks : Asks Related)

include asks

theorem answerAllocate (size : Int) (hasContext : Bool) :
    Within Related (answerAllocate size hasContext) := by
  intro office
  have lends : ∀ lender answer desk,
      (office.desk lender).lend size.toNat = (answer, desk) →
        Related office (office.withDesk lender desk) := by
    intro lender answer desk lent
    have here := asks.lend office lender size.toNat
    rw [lent] at here
    exact here
  have outcome := allocating office size hasContext
  generalize Action.answerAllocate size hasContext office = result at outcome
  cases outcome with
  | null event => exact asks.journal office event
  | granted lender address token desk served positive given lent => exact lends _ _ _ lent
  | refused lender violation desk served positive given lent =>
    exact asks.trans (lends _ _ _ lent) (asks.journal _ _)
  | aborted lender fault desk served positive given lent => exact lends _ _ _ lent

theorem grab (index : Nat) (sequence : UInt64) : Within Related (grab index sequence) := by
  intro office
  have answered : ∀ result,
      Action.answerAllocate (frameLength office index) true office = result →
        Related office result.2 := fun result asked =>
    asked ▸ asks.answerAllocate (frameLength office index) true office
  have outcome := grabbing office index sequence
  generalize Action.grab index sequence office = result at outcome
  cases outcome with
  | complained complaint => exact asks.refl office
  | refused after asked => exact answered _ asked
  | granted grant after asked => exact asks.trans (answered _ asked) (asks.arena after _)
  | aborted fault after asked => exact answered _ asked

theorem makeSensor (frameLength count : Nat) : Within Related (makeSensor frameLength count) := by
  intro office
  obtain ⟨arena, sensors, -, made⟩ := makeSensor_eq office frameLength count
  rw [made]
  exact asks.trans (asks.arena office arena) (asks.sensors _ sensors)

theorem offer (party : Party) : Within Related (offer party) := by
  cases party with
  | host index =>
    refine asks.bind (asks.thenPure asks.get) fun host =>
      asks.bind (fun office => asks.hosts office _) fun _ => ?_
    exact asks.thenPure (asks.mapM (fun size => asks.answerAllocate size true) host.early)
  | sensor index =>
    refine asks.bind (asks.sensor index) fun sensor => ?_
    split
    · exact asks.pure _
    · exact asks.thenPure (fun office => asks.sensors office _)

end Asks

theorem asks_standing : Asks fun before after => after.standing = before.standing :=
  { Chained.of_reading Office.standing with
    journal := fun _ _ => rfl
    arena := fun _ _ => rfl
    sensors := fun _ _ => rfl
    hosts := fun _ _ => rfl
    lend := fun office lender size =>
      office.standing_withDesk lender ((office.desk lender).standing_lend size) }

namespace Action

/-- An action whose only fault is to end the process. -/
def OnlyAborts {Answer : Type} (act : Action Answer) : Prop :=
  ∀ office fault after, act office = (.error fault, after) → fault = .aborted

theorem OnlyAborts.bind {Answer Other : Type} {act : Action Answer}
    {next : Answer → Action Other} (first : OnlyAborts act)
    (rest : ∀ answer, OnlyAborts (next answer)) : OnlyAborts (act >>= next) := by
  intro office fault after failed
  rw [run_bind] at failed
  rcases ran : act office with ⟨fault' | answer, between⟩
  · rw [ran] at failed
    cases failed
    exact first office _ _ ran
  · rw [ran] at failed
    exact rest answer between fault after failed

theorem onlyAborts_answerAllocate (size : Int) (hasContext : Bool) :
    OnlyAborts (answerAllocate size hasContext) := by
  intro office fault after failed
  have outcome := allocating office size hasContext
  rw [failed] at outcome
  cases outcome
  rfl

theorem onlyAborts_mapM (sizes : List Int) :
    OnlyAborts (sizes.mapM fun size => answerAllocate size true) := by
  induction sizes with
  | nil => exact fun _ _ _ => nofun
  | cons size rest inductionHypothesis =>
    rw [List.mapM_cons]
    exact (onlyAborts_answerAllocate size true).bind fun _ =>
      inductionHypothesis.bind fun _ => fun _ _ _ => nofun

theorem onlyAborts_offer (party : Party) : OnlyAborts (offer party) := by
  cases party with
  | host index =>
    have found : OnlyAborts (host index) := fun _ _ _ => nofun
    have connects : OnlyAborts (connectHost index true) := fun _ _ _ => nofun
    refine found.bind fun host => connects.bind fun _ => ?_
    exact (onlyAborts_mapM host.early).bind fun _ => fun _ _ _ => nofun
  | sensor index =>
    have found : OnlyAborts (sensor index) := fun _ _ _ => nofun
    refine found.bind fun sensor => ?_
    split
    · exact fun _ _ _ => nofun
    · exact fun _ _ _ => nofun

/-- Unless the process ends meanwhile, a host or a sensor is fair. -/
theorem fair_offer (party : Party) (office : Office)
    (alive : (offer party office).1 ≠ .error .aborted) : Fair (offer party) office := by
  have same := Office.post_of_standing (asks_standing.offer party office)
  rcases came : offer party office with ⟨fault | answer, after⟩
  · rw [came] at alive
    exact absurd (congrArg Except.error (onlyAborts_offer party office fault after came)) alive
  · rw [came] at same
    exact ⟨answer, after, came, same⟩

end Action

end MemoryLending
