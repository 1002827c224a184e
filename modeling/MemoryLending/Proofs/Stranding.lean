/-
This file says whom a sweep leaves behind when a wrapper panics. The roster is emptied before the
first wrapper is told to retire, so when one of them panics, those before it have retired, and those
after it have not been told and are not on the roster any more: whoever is held by somebody else
still has what it holds, and no later sweep finds it.
-/

import MemoryLending.Proofs.Shutdown

namespace MemoryLending

namespace Action

variable {office worked after : Office} {fault : Fault}

/-- Where two steps come to their end, the first one does. -/
theorem exists_of_run_bind {First Second : Type} {act : Action First}
    {next : First → Action Second} {answer : Second}
    (ran : (act >>= next) office = (.ok answer, after)) :
    ∃ between mid, act office = (.ok between, mid) ∧ next between mid = (.ok answer, after) := by
  rw [run_bind] at ran
  rcases done : act office with ⟨fault | between, mid⟩ <;> rw [done] at ran
  · cases ran
  · exact ⟨between, mid, rfl, ran⟩

/-! ### A retirement that panics -/

/-- The release is claimed and recorded before the panic. -/
theorem retire_of_faulty {id : WrapperId} {name : String} {lender holders : Nat}
    (found : office.wrappers[id]? = some ⟨name, lender, .faulty, ⟨false⟩, holders⟩) :
    retire id office = (.error (.panicked (.refusedRetirement name)),
      (log (.wrapperRetired name)
        (changeWrapper id (fun wrapper => { wrapper with flag := ⟨true⟩ }) office).2).2) := by
  show retireWithin (2 * office.wrappers.size + 1 + 1) id office = _
  rw [retireWithin_succ, run_bind_of_ok (claim_of_found found)]
  rfl

/-- A fault ends the calling up of wrappers. -/
theorem retireAll_of_error {front later : List WrapperId} {id : WrapperId} {count : Nat}
    (done : retireAll front office = (.ok count, worked)) (held : worked.released id = false)
    (failed : retire id worked = (.error fault, after)) :
    retireAll (front ++ id :: later) office = (.error fault, after) := by
  induction front generalizing office count with
  | nil =>
    cases done
    show retireAll (id :: later) worked = _
    rw [retireAll, run_get_bind, if_neg (Bool.eq_false_iff.mp held), run_bind_of_error failed]
  | cons first rest inductionHypothesis =>
    rw [List.cons_append, retireAll, run_get_bind]
    rw [retireAll, run_get_bind] at done
    split at done
    · rename_i released
      rw [if_pos released]
      exact inductionHypothesis done
    · rename_i unreleased
      rw [if_neg unreleased]
      obtain ⟨⟨⟩, mid, retired, others⟩ := exists_of_run_bind done
      obtain ⟨count', last, called, counted⟩ := exists_of_run_bind others
      cases counted
      rw [run_bind_of_ok retired, run_bind_of_error (inductionHypothesis called)]

/-- Work that fails, and holders that are all let go of. -/
theorem thenLetGo_of_error {Answer : Type} {ids : List WrapperId} {work : Action Answer}
    (mild : fault ≠ .aborted) (ran : work office = (.error fault, worked))
    (left : letGoAll ids worked = (.ok (), after)) :
    thenLetGo ids work office = (.error fault, after) := by
  have tried : (work >>= fun answer => (pure (.ok answer) : Action (Except Fault Answer))) office =
      (.error fault, worked) := run_bind_of_error ran
  unfold thenLetGo
  rw [run_bind, run_tryCatch, tried]
  dsimp only
  cases fault with
  | aborted => exact absurd rfl mild
  | _ =>
    dsimp only
    show (letGoAll ids >>= fun _ => _) worked = _
    rw [run_bind_of_ok left]
    rfl

/-- A fault of the wrappers that are called up is the fault of the sweep, once they have all been
let go of. -/
theorem sweep_of_error {lender pruned : Nat} {living : List WrapperId} {held : Office}
    (mustered : muster lender office = (.ok (living, pruned), held)) (mild : fault ≠ .aborted)
    (calling : retireAll living held = (.error fault, worked))
    (left : letGoAll living worked = (.ok (), after)) :
    sweep lender office = (.error fault, after) := by
  have failed : retiring lender office = (.error fault, after) := by
    unfold retiring
    rw [run_bind_of_ok mustered]
    exact run_bind_of_error (thenLetGo_of_error mild calling left)
  rw [sweep_eq]
  exact run_bind_of_error failed

end Action

namespace Office

/-! ### A sweep that ends in a panic -/

/-- What a sweep leaves behind that has called up `front` when the wrapper `id` panics. -/
structure Stranded (lender : Nat) (front : List WrapperId) (id : WrapperId) (name : String)
    (before after : Office) : Prop where
  swept : Action.sweep lender before = (.error (.panicked (.refusedRetirement name)), after)
  released : ∀ other ∈ front, after.released other = true
  /-- Whoever comes later is held by whom it was held, and has not been told to retire. -/
  spared : ∀ other ∉ front, other ≠ id → after.wrappers[other]? = before.wrappers[other]?
  forgotten : after.entries lender = []
  /-- No later sweep tells anybody to retire. -/
  again : ∀ other : WrapperId,
    (Action.sweep lender after).2.wrappers[other]? = after.wrappers[other]?

variable {office : Office} {rented : Nat → List Block} (orderly : office.Orderly rented)
  {lender : Nat}

include orderly

/-- A sweep that finds nobody on the roster changes no wrapper. -/
theorem Orderly.wrappers_sweep_of_empty (empty : office.entries lender = []) (id : WrapperId) :
    (Action.sweep lender office).2.wrappers[id]? = office.wrappers[id]? := by
  have living := living_of_empty empty
  have told := told_of_empty empty
  obtain ⟨mid, retired⟩ := @retired office rented orderly lender (by rw [living]; exact nofun)
    (by rw [living]; exact nofun)
  have same : mid.wrappers[id]? = office.wrappers[id]? :=
    retired.working.others id (told ▸ List.not_mem_nil)
  have outcome := Action.swept retired.done
  generalize Action.sweep lender office = result at outcome
  cases outcome <;> exact same

variable {front later : List WrapperId} {id : WrapperId} {name : String} {home holders : Nat}
  (living : office.living lender = front ++ id :: later)
  (proper : ∀ other ∈ front, office.Proper other) (apart : office.Apart front)
  (found : office.wrappers[id]? = some ⟨name, home, .faulty, ⟨false⟩, holders⟩)

include living proper apart found

/-- When the wrappers in front look after themselves and the next one panics, those in front have
retired, and those behind it are left. -/
theorem Orderly.stranded : ∃ after, Stranded lender front id name office after := by
  obtain ⟨held, mustered, up, empty, -⟩ := Action.mustering lender office
  obtain ⟨worked, called⟩ := calledUp (up.upheld.2 rented orderly)
    (fun other member => up.proper (proper other member)) (up.apart apart)
  have ahead : id ∉ front := fun member => proper id member _ found rfl
  have untold : id ∉ Action.told front held := fun member => ahead ((called.fresh id).mp member).1
  have found' : worked.wrappers[id]? =
      some ⟨name, home, .faulty, ⟨false⟩, holders + (office.living lender).count id⟩ := by
    rw [called.working.others id untold, up.wrappers id, found]
    rfl
  have failed := Action.retire_of_faulty found'
  let claimed := (Action.changeWrapper id (fun wrapper => { wrapper with flag := ⟨true⟩ }) worked).2
  let panicked := (Action.log (.wrapperRetired name) claimed).2
  have flagged : Working [id] (fun _ _ => False) worked claimed :=
    worked.working_changeWrapper id (fun _ => rfl) fun _ _ => rfl
  have step : Working [id] (fun _ _ => False) worked panicked :=
    flagged.thenStill (claimed.working_log id (.wrapperRetired name))
  have working := (called.working.weaken (fun _ => List.mem_cons_of_mem id) fun _ _ _ => Iff.rfl)
    |>.thenStill (step.weaken (fun _ member => List.mem_cons.mpr (Or.inl
      (List.mem_singleton.mp member))) fun _ _ _ => Iff.rfl)
  obtain ⟨wrappers, left, counted⟩ :=
    Action.recounted_letGo (office.living lender) (working.outnumbered up)
  have down : panicked.Recounted (fun id holders => holders - (office.living lender).count id)
      { panicked with wrappers } := panicked.recounted_wrappers counted
  have whole := working.recount up down
  have calling : Action.retireAll (office.living lender) held =
      (.error (.panicked (.refusedRetirement name)), panicked) := by
    rw [living]
    exact Action.retireAll_of_error called.done (released_of_found found') failed
  have swept := Action.sweep_of_error mustered (by exact nofun) calling left
  have forgotten : entries { panicked with wrappers } lender = [] := by
    have fewer := (down.rosters lender).trans (working.rosters lender)
    rw [empty] at fewer
    exact List.sublist_nil.mp fewer
  refine ⟨{ panicked with wrappers }, swept, fun other member => ?_, fun other behind different => ?_,
    forgotten, fun other => ?_⟩
  · rw [down.released]
    exact step.released other (called.released other member)
  · refine whole.others other fun member => ?_
    rcases List.mem_cons.mp member with same | told
    · exact different same
    · exact behind ((called.fresh other).mp told).1
  · exact (whole.upheld.2 rented orderly).wrappers_sweep_of_empty forgotten other

end Office

namespace Process

/-- In every process that goes on over a heap, a sweep whose wrappers look after themselves and own
different loans, up to one that panics, leaves everybody behind who comes after that one. -/
theorem stranded_run (arena : Arena) (policies : List Policy) (tasks : List Task)
    (houses : Throughout take Houses (start arena policies) tasks)
    (going : ((start arena policies).run tasks).ended = false) (lender : Nat)
    (front later : List WrapperId) (id : WrapperId) (name : String) (home holders : Nat)
    (living : ((start arena policies).run tasks).office.living lender = front ++ id :: later)
    (proper : ∀ other ∈ front, ((start arena policies).run tasks).office.Proper other)
    (apart : ((start arena policies).run tasks).office.Apart front)
    (found : ((start arena policies).run tasks).office.wrappers[id]? =
      some ⟨name, home, .faulty, ⟨false⟩, holders⟩) :
    ∃ after, ((start arena policies).run tasks).office.Stranded lender front id name after :=
  (running_run arena policies houses going).inOrder.orderly.stranded living proper apart found

/-- Two wrappers own loans, and one between them panics. The first loan is returned. The second one
is left to a wrapper that no sweep finds. -/
theorem stranded_run_between :
    let tasks : List Task := [.turn 0 ⟨.lend 64, 4096⟩, .turn 0 ⟨.lend 16, 8192⟩,
      .errand (.makeWrapper "early" 0 (.loan 4096 ⟨1⟩)) [],
      .errand (.makeWrapper "broken" 0 .faulty) [],
      .errand (.makeWrapper "late" 0 (.loan 8192 ⟨2⟩)) [], .errand (.enroll 0 0) [],
      .errand (.enroll 0 1) [], .errand (.enroll 0 2) []]
    let start := start (Arena.startingAt 65536 16 16) [Policy.standard]
    let office := (start.run tasks).office
    Throughout take Houses start tasks ∧ office.living 0 = [0, 1, 2] ∧
      ∃ after, office.Stranded 0 [0] 1 "broken" after ∧
        after.released 2 = false ∧ after.alive 2 = true ∧ after.entries 0 = [] ∧
          (Action.sweep 0 after).1 = .error (.refused (.outstanding 1)) ∧
            (Action.sweep 0 after).2.released 2 = false := by
  intro tasks start office
  have houses : Throughout take Houses start tasks := by decide +kernel
  have living : office.living 0 = [0] ++ 1 :: [2] := by decide +kernel
  have early : office.Proper 0 := by
    have here : office.wrappers[0]? =
      some ⟨"early", 0, .loan 4096 ⟨1⟩, ReleaseFlag.held, 1⟩ := by decide +kernel
    intro wrapper found held
    cases here.symm.trans found
    show office.Live 0 4096 ⟨1⟩
    decide +kernel
  obtain ⟨after, stranded⟩ := stranded_run _ _ tasks houses (by decide +kernel) 0 [0] [2] 1
    "broken" 0 1 living (fun other member => List.mem_singleton.mp member ▸ early)
    (fun first member second member' _ _ =>
      (List.mem_singleton.mp member).trans (List.mem_singleton.mp member').symm)
    (by decide +kernel)
  obtain rfl : (Action.sweep 0 office).2 = after := congrArg Prod.snd stranded.swept
  exact ⟨houses, living, _, stranded, by decide +kernel, by decide +kernel, by decide +kernel,
    by decide +kernel, by decide +kernel⟩

end Process

end MemoryLending
