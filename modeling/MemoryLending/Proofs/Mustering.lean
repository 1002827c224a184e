/-
This file follows a sweep from the roster that it musters to what is left of the book. The sweep
holds every living wrapper on the roster while it retires them, and whoever had held a wrapper
before holds it still when the sweep lets go; so no wrapper ends on the way, and the wrappers that
are not told to retire come out as they went in. The loans that are left are those that no wrapper
on the roster owned.
-/

import MemoryLending.Proofs.Retirement

namespace MemoryLending

namespace Office

/-! ### Holders come and go -/

/-- Nothing has changed but how many hold each wrapper, and rosters that have lost entries. -/
structure Recounted (count : WrapperId → Nat → Nat) (before after : Office) : Prop where
  wrappers : ∀ id : WrapperId, after.wrappers[id]? = before.wrappers[id]?.map fun wrapper =>
    { wrapper with holders := count id wrapper.holders }
  served : after.served = before.served
  sensors : after.sensors = before.sensors
  journal : after.journal = before.journal
  upheld : before.Upholds after
  rosters : ∀ lender,
    (after.lender lender).roster.entries.Sublist (before.lender lender).roster.entries
  loans : ∀ lender, (after.lender lender).loans = (before.lender lender).loans

/-- Only holders have changed. -/
theorem recounted_wrappers (office : Office) {wrappers : Array Wrapper}
    {count : WrapperId → Nat → Nat}
    (counted : ∀ id : WrapperId, wrappers[id]? = office.wrappers[id]?.map fun wrapper =>
      { wrapper with holders := count id wrapper.holders }) :
    Recounted count office { office with wrappers } where
  wrappers := counted
  served := rfl
  sensors := rfl
  journal := rfl
  upheld := routine_upholds.wrappers office wrappers
  rosters _ := List.Sublist.refl _
  loans _ := rfl

namespace Recounted

variable {count : WrapperId → Nat → Nat} {before after : Office}
  (recounted : Recounted count before after)

include recounted

theorem released (id : WrapperId) : after.released id = before.released id := by
  unfold Office.released
  rw [recounted.wrappers id]
  cases before.wrappers[id]? <;> rfl

theorem size_wrappers : after.wrappers.size = before.wrappers.size := by
  refine Nat.le_antisymm ?_ ?_
  · rw [← Array.getElem?_eq_none_iff, recounted.wrappers, Option.map_eq_none_iff]
    exact Array.getElem?_eq_none (Nat.le_refl _)
  · rw [← Array.getElem?_eq_none_iff, ← Option.map_eq_none_iff, ← recounted.wrappers]
    exact Array.getElem?_eq_none (Nat.le_refl _)

theorem owned (id : WrapperId) : after.owned id = before.owned id := by
  unfold Office.owned due lent connected
  rw [recounted.wrappers id, recounted.served, recounted.sensors]
  cases before.wrappers[id]? <;> rfl

theorem live {lender address : Nat} {token : Token} (live : before.Live lender address token) :
    after.Live lender address token := by
  unfold Live at live ⊢
  rw [recounted.loans]
  exact live

theorem proper {id : WrapperId} (proper : before.Proper id) : after.Proper id := by
  intro wrapper found held
  rw [Option.mem_def, recounted.wrappers id] at found
  obtain ⟨old, found', rfl⟩ := Option.map_eq_some_iff.mp found
  have connected : ∀ sensor, after.connected sensor = before.connected sensor := fun sensor => by
    unfold Office.connected
    rw [recounted.sensors]
  have looksAfter : before.LooksAfter old := proper old found' held
  exact looksAfter.kept recounted.served connected fun _ _ _ _ => recounted.live

theorem apart {ids : List WrapperId} (apart : before.Apart ids) : after.Apart ids := by
  intro first member second member'
  rw [recounted.owned, recounted.owned]
  exact apart first member second member'

end Recounted

/-- Who holds the living brings nobody back to life. -/
theorem alive_of_held {ids : List WrapperId} {before after : Office}
    (up : Recounted (fun id holders => holders + ids.count id) before after)
    (lives : ∀ id ∈ ids, before.alive id = true) {id : WrapperId} (alive : after.alive id = true) :
    before.alive id = true := by
  by_cases member : id ∈ ids
  · exact lives id member
  · unfold Office.alive at alive ⊢
    rw [up.wrappers id, List.count_eq_zero_of_not_mem member] at alive
    cases found : before.wrappers[id]? with
    | none => rwa [found] at alive
    | some wrapper => rwa [found] at alive

/-- Work while somebody else holds the wrappers too. -/
theorem Working.recount {ids : List WrapperId} {gone : Nat → Loan → Prop} {more : WrapperId → Nat}
    {before held worked after : Office}
    (up : Recounted (fun id holders => holders + more id) before held)
    (working : Working ids gone held worked)
    (down : Recounted (fun id holders => holders - more id) worked after) :
    Working ids gone before after where
  others id other := by
    rw [down.wrappers, working.others id other, up.wrappers, Option.map_map]
    refine (congrArg (Option.map · _) (funext fun wrapper => ?_)).trans Option.map_id_apply
    show { wrapper with holders := wrapper.holders + more id - more id } = wrapper
    rw [Nat.add_sub_cancel]
  holders id := by
    have same := working.holders id
    rw [up.wrappers, Option.map_map] at same
    rw [down.wrappers, Option.map_map,
      show (Wrapper.holders ∘ fun wrapper : Wrapper =>
        { wrapper with holders := wrapper.holders - more id }) =
          (· - more id) ∘ Wrapper.holders from rfl, ← Option.map_map, same, Option.map_map]
    exact congrArg (Option.map · _) (funext fun wrapper => Nat.add_sub_cancel ..)
  released id released := by
    rw [down.released]
    exact working.released id ((up.released id).trans released)
  served := down.served.trans (working.served.trans up.served)
  connected sensor := by
    unfold Office.connected
    rw [down.sensors, ← up.sensors]
    exact working.connected sensor
  upheld := routine_upholds.trans up.upheld (routine_upholds.trans working.upheld down.upheld)
  rosters lender := (down.rosters lender).trans ((working.rosters lender).trans (up.rosters lender))
  loans lender loan := by
    rw [down.loans, working.loans, up.loans]

end Office

namespace Action

theorem recounted_hold (ids : List WrapperId) (office : Office) :
    ∃ wrappers, ids.forM hold office = (.ok (), { office with wrappers }) ∧
      ∀ id : WrapperId, wrappers[id]? = office.wrappers[id]?.map fun wrapper =>
        { wrapper with holders := wrapper.holders + ids.count id } := by
  induction ids generalizing office with
  | nil => exact ⟨office.wrappers, rfl, fun id => Option.map_id_apply.symm⟩
  | cons id later inductionHypothesis =>
    obtain ⟨wrappers, held, counted⟩ := inductionHypothesis (hold id office).2
    refine ⟨wrappers, held, fun other => ?_⟩
    rw [counted other, hold, Office.getElem?_changeWrapper]
    by_cases same : id = other
    · subst same
      rw [if_pos rfl, Option.map_map, List.count_cons_self]
      exact congrArg (Option.map · _) (funext fun wrapper => by
        show { wrapper with holders := wrapper.holders + 1 + later.count id } = _
        rw [Nat.add_assoc, Nat.add_comm 1])
    · rw [if_neg same, List.count_cons_of_ne same]

/-- Whoever is not the last one to let go of a wrapper takes nothing but one holder away. -/
theorem letGo_of_held {id : WrapperId} {office : Office} {wrapper : Wrapper}
    (found : office.wrappers[id]? = some wrapper) (held : 1 < wrapper.holders) :
    letGo id office = (.ok (), (changeWrapper id (fun wrapper =>
      { wrapper with holders := wrapper.holders - 1 }) office).2) := by
  have unheld : unhold id office = (.ok none, (changeWrapper id (fun wrapper =>
      { wrapper with holders := wrapper.holders - 1 }) office).2) := by
    unfold unhold
    rw [run_get_bind, found]
    dsimp only
    rw [if_neg (Nat.ne_of_gt (Nat.lt_of_succ_lt held)), if_neg (Nat.ne_of_gt held)]
    rfl
  show letGoWithin (2 * office.wrappers.size + 1 + 1) id office = _
  rw [letGoWithin_succ, run_bind_of_ok unheld]
  rfl

theorem recounted_letGo (ids : List WrapperId) {office : Office}
    (held : ∀ id ∈ ids, ∃ wrapper, office.wrappers[id]? = some wrapper ∧
      ids.count id < wrapper.holders) :
    ∃ wrappers, letGoAll ids office = (.ok (), { office with wrappers }) ∧
      ∀ id : WrapperId, wrappers[id]? = office.wrappers[id]?.map fun wrapper =>
        { wrapper with holders := wrapper.holders - ids.count id } := by
  induction ids generalizing office with
  | nil => exact ⟨office.wrappers, rfl, fun id => Option.map_id_apply.symm⟩
  | cons id later inductionHypothesis =>
    obtain ⟨wrapper, found, many⟩ := held id List.mem_cons_self
    rw [List.count_cons_self] at many
    have ran := letGo_of_held found (Nat.lt_of_le_of_lt (Nat.le_add_left 1 _) many)
    have held' : ∀ other ∈ later, ∃ wrapper,
        (changeWrapper id (fun wrapper => { wrapper with holders := wrapper.holders - 1 })
          office).2.wrappers[other]? = some wrapper ∧ later.count other < wrapper.holders := by
      intro other member
      obtain ⟨wrapper, found, many⟩ := held other (List.mem_cons_of_mem id member)
      rw [Office.getElem?_changeWrapper, found]
      by_cases same : id = other
      · subst same
        rw [List.count_cons_self] at many
        exact ⟨_, if_pos rfl, Nat.lt_sub_of_add_lt many⟩
      · rw [List.count_cons_of_ne same] at many
        exact ⟨wrapper, if_neg same, many⟩
    obtain ⟨wrappers, done, counted⟩ := inductionHypothesis held'
    refine ⟨wrappers, ?_, fun other => ?_⟩
    · show (letGo id >>= fun _ => letGoAll later) office = _
      rw [run_bind_of_ok ran, done]
      rfl
    rw [counted other, Office.getElem?_changeWrapper]
    by_cases same : id = other
    · subst same
      rw [if_pos rfl, Option.map_map, List.count_cons_self]
      exact congrArg (Option.map · _) (funext fun wrapper => by
        show { wrapper with holders := wrapper.holders - 1 - later.count id } = _
        rw [Nat.sub_sub, Nat.add_comm 1])
    · rw [if_neg same, List.count_cons_of_ne same]

/-- Work that comes to its end, and holders that are all let go of. -/
theorem thenLetGo_of_ok {Answer : Type} {ids : List WrapperId} {work : Action Answer}
    {answer : Answer} {office worked after : Office} (ran : work office = (.ok answer, worked))
    (left : letGoAll ids worked = (.ok (), after)) :
    thenLetGo ids work office = (.ok answer, after) := by
  have tried : (work >>= fun answer => (pure (.ok answer) : Action (Except Fault Answer))) office =
      (.ok (.ok answer), worked) := by
    rw [run_bind_of_ok ran]
    rfl
  unfold thenLetGo
  rw [run_bind, run_tryCatch, tried]
  dsimp only
  rw [run_bind_of_ok left]
  rfl

/-- A muster holds each wrapper once for each of its entries, and leaves nobody on the roster. -/
theorem mustering (lender : Nat) (office : Office) :
    ∃ after, muster lender office =
        (.ok ((office.lender lender).roster.living office.alive,
          (office.lender lender).roster.count -
            ((office.lender lender).roster.living office.alive).length), after) ∧
      office.Recounted (fun id holders =>
        holders + ((office.lender lender).roster.living office.alive).count id) after ∧
      (after.lender lender).roster.entries = [] ∧
        ∀ other, other ≠ lender → after.lender other = office.lender other := by
  obtain ⟨wrappers, held, counted⟩ :=
    recounted_hold ((office.lender lender).roster.living office.alive) office
  have holding : holdLiving (office.lender lender).roster office =
      (.ok ((office.lender lender).roster.muster office.alive), { office with wrappers }) := by
    unfold holdLiving
    rw [run_get_bind]
    exact run_bind_of_ok held
  have recounted : office.Recounted (fun id holders =>
      holders + ((office.lender lender).roster.living office.alive).count id)
      { office with wrappers } := office.recounted_wrappers counted
  let cleared : Roster → (WrapperId → Bool) → Roster := fun _ _ =>
    ((office.lender lender).roster.muster office.alive).2.2
  have changed := fun other =>
    Office.lender_changeRoster { office with wrappers } lender other cleared
  refine ⟨(changeRoster lender cleared { office with wrappers }).2, ?_, { recounted with
      upheld := Office.routine_upholds.trans recounted.upheld
        (Office.routine_upholds.changeRoster lender _ _)
      rosters := fun other => ?_
      loans := fun other => ?_ }, ?_, fun other different => ?_⟩
  · unfold muster
    rw [run_get_bind, run_bind_of_ok holding]
    rfl
  · rw [changed]
    split
    · exact List.nil_sublist _
    · exact List.Sublist.refl _
  · rw [changed]
    split <;> rfl
  · rw [changed]
    split
    · rfl
    · rename_i beyond
      have beyond : office.lenders.size ≤ lender := Nat.le_of_not_lt fun inRange =>
        beyond ⟨rfl, inRange⟩
      show (office.lender lender).roster.entries = []
      rw [Office.lender_of_beyond beyond]
      rfl
  · rw [changed, if_neg fun both => different both.1.symm]
    rfl

end Action

namespace Office

/-- The wrappers on a roster that are alive, once for each entry. -/
def living (office : Office) (lender : Nat) : List WrapperId :=
  (office.lender lender).roster.living office.alive

/-- The number of entries on a roster whose wrapper is gone. -/
def dead (office : Office) (lender : Nat) : Nat :=
  (office.lender lender).roster.entries.countP fun id => !office.alive id

theorem dead_eq (office : Office) (lender : Nat) :
    office.dead lender = (office.lender lender).roster.count - (office.living lender).length := by
  have parts := @List.length_eq_countP_add_countP _ office.alive
    (office.lender lender).roster.entries
  unfold dead living Roster.living Roster.count
  rw [parts, ← @List.countP_eq_length_filter _ office.alive, Nat.add_sub_cancel_left]
  exact List.countP_congr fun id _ => by simp

theorem found_of_alive {office : Office} {id : WrapperId} (alive : office.alive id = true) :
    ∃ wrapper, office.wrappers[id]? = some wrapper ∧ wrapper.holders ≠ 0 := by
  unfold Office.alive at alive
  cases found : office.wrappers[id]? with
  | none => rw [found] at alive; cases alive
  | some wrapper =>
    rw [found] at alive
    exact ⟨wrapper, rfl, bne_iff_ne.mp alive⟩

/-- While a sweep holds the living, somebody else holds each of them too. -/
theorem Working.outnumbered {office held worked : Office} {lender : Nat} {ids : List WrapperId}
    {gone : Nat → Loan → Prop}
    (up : office.Recounted (fun id holders => holders + (office.living lender).count id) held)
    (working : Working ids gone held worked) : ∀ id ∈ office.living lender,
      ∃ wrapper, worked.wrappers[id]? = some wrapper ∧
        (office.living lender).count id < wrapper.holders := by
  intro id member
  obtain ⟨wrapper, found, holders⟩ := found_of_alive (List.mem_filter.mp member).2
  have same := working.holders id
  rw [up.wrappers id, found] at same
  obtain ⟨later, found', counted⟩ := Option.map_eq_some_iff.mp same
  refine ⟨later, found', ?_⟩
  rw [counted]
  exact Nat.lt_add_of_pos_left (Nat.pos_of_ne_zero holders)

/-- The wrappers that a sweep tells to retire. -/
def told (office : Office) (lender : Nat) : List WrapperId :=
  Action.told (office.living lender) (Action.muster lender office).2

/-- What the first part of a sweep comes to, where every wrapper that is alive looks after
itself. -/
structure Retired (lender : Nat) (before after : Office) : Prop where
  done : Action.retiring lender before =
    (.ok ((before.told lender).length, before.dead lender), after)
  once : (before.told lender).Nodup
  fresh : ∀ id, id ∈ before.told lender ↔ id ∈ before.living lender ∧ before.released id = false
  released : ∀ id ∈ before.living lender, after.released id = true
  working : Working (before.told lender) (fun index loan => ∃ id ∈ before.living lender,
    before.owned id = some (index, loan.base, loan.token)) before after
  empty : (after.lender lender).roster.entries = []

theorem retired {office : Office} {rented : Nat → List Block} (orderly : office.Orderly rented)
    {lender : Nat} (proper : ∀ id ∈ office.living lender, office.Proper id)
    (apart : office.Apart (office.living lender)) : ∃ after, Retired lender office after := by
  obtain ⟨held, mustered, up, empty, -⟩ := Action.mustering lender office
  have told : office.told lender = Action.told (office.living lender) held := by
    unfold Office.told
    rw [mustered]
  obtain ⟨worked, called⟩ := calledUp (up.upheld.2 rented orderly)
    (fun id member => up.proper (proper id member)) (up.apart apart)
  obtain ⟨wrappers, left, counted⟩ :=
    Action.recounted_letGo (office.living lender) (called.working.outnumbered up)
  have down : worked.Recounted (fun id holders => holders - (office.living lender).count id)
      { worked with wrappers } := worked.recounted_wrappers counted
  have working := called.working.recount up down
  refine ⟨{ worked with wrappers }, ?_, ?_, fun id => ?_, fun id member => ?_, ?_, ?_⟩
  · have done : Action.thenLetGo (office.living lender)
        (Action.retireAll (office.living lender)) held =
          (.ok (office.told lender).length, { worked with wrappers }) := by
      rw [told]
      exact Action.thenLetGo_of_ok called.done left
    unfold Action.retiring
    rw [Action.run_bind_of_ok mustered]
    dsimp only
    rw [dead_eq]
    exact Action.run_bind_of_ok done
  · rw [told]
    exact called.once
  · rw [told, called.fresh, up.released]
  · rw [down.released]
    exact called.released id member
  · rw [told]
    refine working.weaken (fun _ member => member) fun index loan _ => ?_
    exact exists_congr fun id => and_congr_right fun _ => by rw [up.owned]
  · have fewer := (down.rosters lender).trans (called.working.rosters lender)
    rw [empty] at fewer
    exact List.sublist_nil.mp fewer

end Office

end MemoryLending
