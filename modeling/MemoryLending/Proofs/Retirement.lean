/-
This file retires wrappers that look after themselves. Such a wrapper holds no other one, does not
fail, and owns at most a loan, which is live. Retired, it gives back that loan and no other; it
leaves all other wrappers as they are, and it takes nobody off the roster but itself and the dead.
So wrappers that own different loans can be retired one after another, each once, however often
they are called up.
-/

import MemoryLending.Proofs.NativeSide

namespace MemoryLending

/-- The book, the address and the token of the loan that is given back. -/
def Chore.loan? : Chore → Option (Nat × Nat × Token)
  | returnLoan lender address token => some (lender, address, token)
  | withdraw _ => none

namespace Office

/-! ### What wrappers own -/

/-- Whether a sensor has the callbacks. -/
def connected (office : Office) (sensor : Nat) : Bool :=
  (office.sensors.getD sensor default).connected

/-- The book, the address and the token of the loan that a sensor gives back with a frame. -/
def lent (office : Office) (sensor : Nat) (frame : Frame) : Option (Nat × Nat × Token) :=
  if office.connected sensor then
    office.served.map fun lender => (lender, frame.address, frame.context)
  else none

/-- The book, the address and the token of the loan that a wrapper gives back. -/
def due (office : Office) (wrapper : Wrapper) : Option (Nat × Nat × Token) :=
  match wrapper.duty with
  | .loan address token => some (wrapper.lender, address, token)
  | .capture sensor (some frame) => office.lent sensor frame
  | .chores todo => (todo.filterMap Chore.loan?).head?
  | _ => none

/-- The loan that a wrapper owns. One whose release has been claimed owns nothing. -/
def owned (office : Office) (id : WrapperId) : Option (Nat × Nat × Token) :=
  match office.wrappers[id]? with
  | some wrapper => if wrapper.flag.released then none else office.due wrapper
  | none => none

/-- A sensor can give a frame back: it has no callbacks, or the frame is a live loan of the lender
that serves them. -/
def TakesBack (office : Office) (sensor : Nat) (frame : Frame) : Prop :=
  office.connected sensor = true →
    ∃ lender, office.served = some lender ∧ office.Live lender frame.address frame.context

/-- At most one loan is given back, and it is live. -/
def PaysBack (office : Office) (todo : List Chore) : Prop :=
  (todo.filterMap Chore.loan?).length ≤ 1 ∧
    ∀ loan ∈ todo.filterMap Chore.loan?, office.Live loan.1 loan.2.1 loan.2.2

/-- A wrapper looks after itself: to retire it, no other wrapper has to be retired or let go of,
and what it gives back is live. -/
def LooksAfter (office : Office) (wrapper : Wrapper) : Prop :=
  match wrapper.duty with
  | .plain | .automatic | .lease _ | .parent none | .owner none | .capture _ none
  | .session _ => True
  | .loan address token => office.Live wrapper.lender address token
  | .capture sensor (some frame) => office.TakesBack sensor frame
  | .chores todo => office.PaysBack todo
  | .parent (some _) | .owner (some _) | .spawner _ | .faulty => False

theorem head?_of_mem {Item : Type} {items : List Item} {item : Item} (short : items.length ≤ 1)
    (member : item ∈ items) : items.head? = some item := by
  obtain ⟨only, rfl⟩ := List.length_eq_one_iff.mp
    (Nat.le_antisymm short (List.length_pos_of_mem member))
  rw [List.mem_singleton.mp member]
  rfl

/-- A wrapper goes on to look after itself while the loan that it owns stays live. -/
theorem LooksAfter.kept {before after : Office} {wrapper : Wrapper}
    (looksAfter : before.LooksAfter wrapper) (served : after.served = before.served)
    (connected : ∀ sensor, after.connected sensor = before.connected sensor)
    (live : ∀ lender address token, before.due wrapper = some (lender, address, token) →
      before.Live lender address token → after.Live lender address token) :
    after.LooksAfter wrapper := by
  obtain ⟨name, lender, duty, flag, holders⟩ := wrapper
  cases duty with
  | loan address token => exact live lender address token rfl looksAfter
  | capture sensor frame =>
    cases frame with
    | none => trivial
    | some frame =>
      intro connected'
      rw [connected] at connected'
      obtain ⟨lender, serves, lives⟩ := looksAfter connected'
      refine ⟨lender, served.trans serves, live lender frame.address frame.context ?_ lives⟩
      unfold Office.due lent
      dsimp only
      rw [if_pos connected', serves]
      rfl
  | chores todo =>
    obtain ⟨short, lives⟩ := looksAfter
    refine ⟨short, fun loan member => live _ _ _ ?_ (lives loan member)⟩
    exact head?_of_mem short member
  | parent child => cases child <;> exact looksAfter
  | owner child => cases child <;> exact looksAfter
  | plain | automatic | lease held | session sensor | spawner spawned | faulty => exact looksAfter

/-- A wrapper that has been released or looks after itself. -/
def Proper (office : Office) (id : WrapperId) : Prop :=
  ∀ wrapper ∈ office.wrappers[id]?, wrapper.flag.released = false → office.LooksAfter wrapper

theorem inRange_of_live {office : Office} {lender address : Nat} {token : Token}
    (live : office.Live lender address token) : lender < office.lenders.size := by
  by_contra beyond
  obtain ⟨loan, member, -, -⟩ := live
  rw [lender_of_beyond (Nat.le_of_not_lt beyond)] at member
  cases member

theorem released_of_found {office : Office} {id : WrapperId} {wrapper : Wrapper}
    (found : office.wrappers[id]? = some wrapper) :
    office.released id = wrapper.flag.released := by
  unfold Office.released
  rw [found]

theorem owned_of_found {office : Office} {id : WrapperId} {wrapper : Wrapper}
    (found : office.wrappers[id]? = some wrapper) (held : wrapper.flag.released = false) :
    office.owned id = office.due wrapper := by
  unfold Office.owned
  rw [found]
  exact if_neg (Bool.eq_false_iff.mp held)

theorem owned_of_released {office : Office} {id : WrapperId}
    (released : office.released id = true) : office.owned id = none := by
  unfold Office.released at released
  unfold Office.owned
  cases found : office.wrappers[id]? with
  | none => rfl
  | some wrapper =>
    rw [found] at released
    exact if_pos released

theorem held_of_unreleased {office : Office} {id : WrapperId}
    (unreleased : ¬office.released id = true) :
    ∃ wrapper, office.wrappers[id]? = some wrapper ∧ wrapper.flag.released = false := by
  unfold Office.released at unreleased
  cases found : office.wrappers[id]? with
  | none => rw [found] at unreleased; exact absurd rfl unreleased
  | some wrapper =>
    rw [found] at unreleased
    exact ⟨wrapper, rfl, Bool.eq_false_of_not_eq_true unreleased⟩

/-- A change that takes no claim back takes no release back. -/
theorem released_changeWrapper {office : Office} {id other : WrapperId}
    {change : Wrapper → Wrapper}
    (kept : ∀ wrapper, wrapper.flag.released = true → (change wrapper).flag.released = true)
    (released : office.released other = true) :
    (Action.changeWrapper id change office).2.released other = true := by
  unfold Office.released at released ⊢
  rw [office.getElem?_changeWrapper id other change]
  cases found : office.wrappers[other]? with
  | none => rw [Option.map_none, ite_self]
  | some wrapper =>
    rw [found] at released
    by_cases same : id = other
    · rw [if_pos same]
      exact kept wrapper released
    · rw [if_neg same]
      exact released

theorem released_of_claim (office : Office) (id : WrapperId) :
    (Action.changeWrapper id (fun wrapper => { wrapper with flag := ⟨true⟩ }) office).2.released
      id = true := by
  unfold Office.released
  rw [office.getElem?_changeWrapper, if_pos rfl]
  cases office.wrappers[id]? <;> rfl

/-! ### What a retirement leaves alone -/

/-- Only the wrappers `ids` have been at work, and only the loans in `gone` have been given
back. -/
structure Working (ids : List WrapperId) (gone : Nat → Loan → Prop) (before after : Office) :
    Prop where
  others : ∀ id ∉ ids, after.wrappers[id]? = before.wrappers[id]?
  holders : ∀ id : WrapperId,
    after.wrappers[id]?.map Wrapper.holders = before.wrappers[id]?.map Wrapper.holders
  released : ∀ id, before.released id = true → after.released id = true
  served : after.served = before.served
  connected : ∀ sensor, after.connected sensor = before.connected sensor
  upheld : before.Upholds after
  rosters : ∀ lender,
    (after.lender lender).roster.entries.Sublist (before.lender lender).roster.entries
  loans : ∀ lender loan, loan ∈ (after.lender lender).loans.toList ↔
    loan ∈ (before.lender lender).loans.toList ∧ ¬gone lender loan

namespace Working

variable {ids more : List WrapperId} {gone lost : Nat → Loan → Prop}
  {before between after : Office}

theorem refl (ids : List WrapperId) (office : Office) :
    Working ids (fun _ _ => False) office office where
  others _ _ := rfl
  holders _ := rfl
  released _ := id
  served := rfl
  connected _ := rfl
  upheld := routine_upholds.refl office
  rosters _ := List.Sublist.refl _
  loans _ _ := ⟨fun member => ⟨member, not_false⟩, And.left⟩

theorem trans (first : Working ids gone before between) (second : Working ids lost between after) :
    Working ids (fun lender loan => gone lender loan ∨ lost lender loan) before after where
  others id other := (second.others id other).trans (first.others id other)
  holders id := (second.holders id).trans (first.holders id)
  released id released := second.released id (first.released id released)
  served := second.served.trans first.served
  connected sensor := (second.connected sensor).trans (first.connected sensor)
  upheld := routine_upholds.trans first.upheld second.upheld
  rosters lender := (second.rosters lender).trans (first.rosters lender)
  loans lender loan := by
    rw [second.loans, first.loans, not_or, and_assoc]

/-- Wrappers besides, and the same loans described in another way. -/
theorem weaken (working : Working ids gone before after) (fewer : ∀ id ∈ ids, id ∈ more)
    (same : ∀ lender loan, loan ∈ (before.lender lender).loans.toList →
      (gone lender loan ↔ lost lender loan)) : Working more lost before after :=
  { working with
    others := fun id other => working.others id fun member => other (fewer id member)
    loans := fun lender loan => by
      rw [working.loans]
      exact and_congr_right fun member => not_congr (same lender loan member) }

/-- Work that gives nothing back, before or after. -/
theorem thenStill (first : Working ids gone before between)
    (second : Working ids (fun _ _ => False) between after) : Working ids gone before after :=
  (first.trans second).weaken (fun _ => id) fun _ _ _ => or_iff_left not_false

theorem ofStill (first : Working ids (fun _ _ => False) before between)
    (second : Working ids gone between after) : Working ids gone before after :=
  (first.trans second).weaken (fun _ => id) fun _ _ _ => or_iff_right not_false

theorem due (working : Working ids gone before after) (wrapper : Wrapper) :
    after.due wrapper = before.due wrapper := by
  unfold Office.due lent
  simp only [working.served, working.connected]

theorem owned (working : Working ids gone before after) {id : WrapperId} (other : id ∉ ids) :
    after.owned id = before.owned id := by
  unfold Office.owned
  rw [working.others id other]
  simp only [working.due]

theorem released_of_not_mem (working : Working ids gone before after) {id : WrapperId}
    (other : id ∉ ids) : after.released id = before.released id := by
  unfold Office.released
  rw [working.others id other]

theorem live (working : Working ids gone before after) {lender address : Nat} {token : Token}
    (kept : ∀ loan : Loan, (lender, address, token) = (lender, loan.base, loan.token) →
      ¬gone lender loan) (live : before.Live lender address token) :
    after.Live lender address token := by
  obtain ⟨loan, member, rfl, rfl⟩ := live
  exact ⟨loan, (working.loans lender loan).mpr ⟨member, kept loan rfl⟩, rfl, rfl⟩

/-- A wrapper goes on to look after itself while its own loan is not given back. -/
theorem looksAfter (working : Working ids gone before after) {wrapper : Wrapper}
    (kept : ∀ lender loan, before.due wrapper = some (lender, loan.base, loan.token) →
      ¬gone lender loan) (looksAfter : before.LooksAfter wrapper) : after.LooksAfter wrapper :=
  looksAfter.kept working.served working.connected fun lender _ _ due =>
    working.live fun loan same => kept lender loan (due.trans (congrArg some same))

end Working

/-! ### Small changes -/

section Small

variable (office : Office) (id : WrapperId)

theorem working_changeWrapper {change : Wrapper → Wrapper}
    (holders : ∀ wrapper, (change wrapper).holders = wrapper.holders)
    (released : ∀ wrapper, wrapper.flag.released = true → (change wrapper).flag.released = true) :
    Working [id] (fun _ _ => False) office (Action.changeWrapper id change office).2 := by
  have changed := fun other => office.getElem?_changeWrapper id other change
  refine { Working.refl [id] office with
    upheld := routine_upholds.changeWrapper id change office
    others := fun other different => ?_
    holders := fun other => ?_
    released := fun _ => released_changeWrapper released }
  · rw [changed, if_neg fun same => different (List.mem_singleton.mpr same.symm)]
  · rw [changed]
    split
    · rw [Option.map_map]
      exact congrArg (Option.map · _) (funext holders)
    · rfl

theorem working_log (event : Event) :
    Working [id] (fun _ _ => False) office (Action.log event office).2 where
  __ := Working.refl [id] office
  upheld := routine_upholds.log event office

/-- Work at a desk that leaves the roster alone. -/
theorem working_withDesk {gone : Nat → Loan → Prop} {index : Nat} {desk : Desk}
    (upheld : office.Upholds (office.withDesk index desk))
    (roster : desk.lender.roster = (office.lender index).roster)
    (loans : index < office.lenders.size → ∀ loan, loan ∈ desk.lender.loans.toList ↔
      loan ∈ (office.lender index).loans.toList ∧ ¬gone index loan)
    (here : ∀ lender loan, gone lender loan → lender = index) :
    Working [id] gone office (office.withDesk index desk) := by
  refine { Working.refl [id] office with
    upheld := upheld
    rosters := fun lender => ?_
    loans := fun lender loan => ?_ }
  · rw [lender_withDesk]
    split
    · rename_i both
      rw [roster, both.1]
    · exact List.Sublist.refl _
  · rw [lender_withDesk]
    split
    · rename_i both
      obtain ⟨rfl, inRange⟩ := both
      exact loans inRange loan
    · rename_i apart
      refine ⟨fun member => ⟨member, fun lost => ?_⟩, And.left⟩
      obtain rfl := here lender loan lost
      refine apart ⟨rfl, ?_⟩
      by_contra beyond
      exact beyond (@inRange_of_live office lender loan.base loan.token ⟨loan, member, rfl, rfl⟩)

theorem working_endLease (index : Nat) (replica : Replica) :
    Working [id] (fun _ _ => False) office
      (Action.changeDesk index (·.endLease replica) office).2 := by
  have standing := (office.desk index).standing_endLease replica
  have books : ((office.desk index).endLease replica).books = (office.desk index).books :=
    Desk.overlooks_books.endLease (office.desk index) fun _ _ _ => rfl
  refine office.working_withDesk id (upholds_endLease office index replica)
    (congrArg (·.2.1) standing) (fun _ loan => ?_) fun _ _ => False.elim
  rw [(Desk.of_books books).1]
  exact ⟨fun member => ⟨member, not_false⟩, And.left⟩

theorem working_withdraw (index : Nat) :
    Working [id] (fun _ _ => False) office (Action.withdraw index id office).2 := by
  have changed := fun lender => office.lender_changeRoster index lender fun roster alive =>
    roster.withdraw alive id
  refine { Working.refl [id] office with
    upheld := routine_upholds.withdraw index id office
    rosters := fun lender => ?_
    loans := fun lender loan => ?_ }
  · rw [Action.withdraw, changed]
    split
    · exact List.filter_sublist.trans List.filter_sublist
    · exact List.Sublist.refl _
  · rw [Action.withdraw, changed]
    split <;> exact ⟨fun member => ⟨member, not_false⟩, And.left⟩

theorem working_halt (sensor : Nat) :
    ∃ after, Action.halt sensor office = (.ok (), after) ∧
      Working [id] (fun _ _ => False) office after := by
  have upheld := routine_upholds.halt sensor office
  have found : Action.sensor sensor office = (.ok (office.sensors.getD sensor default), office) :=
    rfl
  unfold Action.halt at upheld ⊢
  rw [Action.run_bind_of_ok found] at upheld ⊢
  by_cases running : (office.sensors.getD sensor default).running = true
  · rw [if_pos running] at upheld ⊢
    refine ⟨_, rfl, { Working.refl [id] office with upheld, connected := fun other => ?_ }⟩
    show ((office.sensors.modify sensor fun sensor => { sensor with running := false }).getD other
      default).connected = (office.sensors.getD other default).connected
    rw [Array.getD_eq_getD_getElem?, Array.getD_eq_getD_getElem?, Array.getElem?_modify]
    split
    · cases office.sensors[other]? <;> rfl
    · rfl
  · rw [if_neg running]
    exact ⟨_, rfl, Working.refl [id] office⟩

end Small

theorem working_whenever (condition : Bool) (act : Action Unit) {office : Office} {id : WrapperId}
    (done : (act office).1 = .ok ())
    (working : Working [id] (fun _ _ => False) office (act office).2) :
    ∃ after, Action.whenever condition act office = (.ok (), after) ∧
      Working [id] (fun _ _ => False) office after := by
  unfold Action.whenever
  split
  · exact ⟨(act office).2, Prod.ext done rfl, working⟩
  · exact ⟨office, rfl, Working.refl [id] office⟩

/-! ### One retirement -/

section Retire

variable {office : Office} {rented : Nat → List Block} (orderly : office.Orderly rented)
  (id : WrapperId)

include orderly

/-- A live loan is given back, and no other one. -/
theorem working_reclaim {lender address : Nat} {token : Token}
    (live : office.Live lender address token) :
    ∃ desk, (office.desk lender).reclaim address token = (.ok (), desk) ∧
      Working [id] (fun index loan => (lender, address, token) = (index, loan.base, loan.token))
        office (office.withDesk lender desk) := by
  have ordered := (orderly.sound (inRange_of_live live)).ordered
  have outcome := @Desk.reclaiming (office.desk lender) ordered address token
  have upheld := upholds_reclaim office lender address token
  have standing := Desk.standing_loans.reclaim (office.desk lender) address token
  obtain ⟨given, member, base, same⟩ := live
  generalize (office.desk lender).reclaim address token = result at outcome upheld standing
  cases outcome with
  | settled loan desk member' base' same' struck =>
    refine ⟨desk, rfl, office.working_withDesk id upheld (congrArg (·.2.1) standing)
      (fun _ other => ?_) fun _ _ gone => (congrArg Prod.fst gone).symm⟩
    have nodup : (loan :: desk.lender.loans.toList).Nodup :=
      struck.nodup_iff.mpr (ordered.nodup_bases.of_map _)
    have entries : other ∈ (office.lender lender).loans.toList ↔
      other = loan ∨ other ∈ desk.lender.loans.toList := struck.mem_iff.symm.trans List.mem_cons
    rw [entries]
    constructor
    · intro left
      refine ⟨Or.inr left, fun gone => ?_⟩
      have found : other = loan := ordered.eq_of_base (entries.mpr (Or.inr left)) member'
        ((congrArg (·.2.1) gone).symm.trans base'.symm)
      exact (List.nodup_cons.mp nodup).1 (found ▸ left)
    · rintro ⟨rfl | left, kept⟩
      · exact absurd (by rw [base', same']) kept
      · exact left
  | mistaken loan violation member' base' other =>
    exact absurd (ordered.eq_of_base member member' (base.trans base'.symm) ▸ same) other
  | rejected violation absent policy => exact absurd base (absent given member)
  | ignored desk absent policy unchanged => exact absurd base (absent given member)

theorem working_handBack {sensor : Nat} {frame : Frame} (back : office.TakesBack sensor frame) :
    ∃ after, Action.handBack sensor frame office = (.ok (), after) ∧
      Working [id] (fun index loan =>
        office.lent sensor frame = some (index, loan.base, loan.token)) office after := by
  have found : Action.sensor sensor office = (.ok (office.sensors.getD sensor default), office) :=
    rfl
  unfold Action.handBack lent
  rw [Action.run_bind_of_ok found]
  by_cases connected : office.connected sensor = true
  · obtain ⟨lender, served, live⟩ := back connected
    obtain ⟨desk, came, working⟩ := working_reclaim orderly id live
    rw [if_pos (show (office.sensors.getD sensor default).connected = true from connected),
      Action.answerFree_of_served served, came]
    refine ⟨_, rfl, working.weaken (fun _ member => member) fun _ _ _ => ?_⟩
    rw [if_pos connected, served]
    exact Option.some_inj.symm
  · rw [if_neg (show ¬(office.sensors.getD sensor default).connected = true from connected)]
    refine ⟨office, rfl, (Working.refl [id] office).weaken (fun _ member => member) fun _ _ _ => ?_⟩
    rw [if_neg connected]
    exact ⟨False.elim, nofun⟩

theorem working_returnLoan {lender address : Nat} {token : Token}
    (live : office.Live lender address token) :
    ∃ after, Action.returnLoan lender address token office = (.ok (), after) ∧
      Working [id] (fun index loan => (lender, address, token) = (index, loan.base, loan.token))
        office after := by
  obtain ⟨desk, came, working⟩ := working_reclaim orderly id live
  have done : Action.atDesk lender (Action.orRefuse (·.reclaim address token)) office =
      (.ok (), office.withDesk lender desk) := by
    unfold Action.atDesk Action.orRefuse
    dsimp only
    rw [came]
  refine ⟨office.withDesk lender desk, ?_, working⟩
  unfold Action.returnLoan
  rw [Action.run_tryCatch, done]

/-- Chores that give back at most one loan, which is live, are all done. -/
theorem working_chores {todo : List Chore} (paysBack : office.PaysBack todo) :
    ∃ after, todo.forM (Action.doChore id) office = (.ok (), after) ∧
      Working [id] (fun index loan =>
        (todo.filterMap Chore.loan?).head? = some (index, loan.base, loan.token)) office after := by
  induction todo generalizing office with
  | nil =>
    exact ⟨office, rfl, (Working.refl [id] office).weaken (fun _ member => member) fun _ _ _ =>
      ⟨False.elim, nofun⟩⟩
  | cons chore rest inductionHypothesis =>
    obtain ⟨short, lives⟩ := paysBack
    cases chore with
    | withdraw lender =>
      have still := office.working_withdraw id lender
      obtain ⟨after, done, working⟩ := inductionHypothesis (still.upheld.2 rented orderly)
        ⟨short, fun loan member => still.live (fun _ _ => not_false) (lives loan member)⟩
      have withdrawn : Action.doChore id (.withdraw lender) office =
          (.ok (), (Action.withdraw lender id office).2) := rfl
      exact ⟨after, (Action.run_bind_of_ok withdrawn).trans done, still.ofStill working⟩
    | returnLoan lender address token =>
      -- nothing else is given back
      have none : rest.filterMap Chore.loan? = [] :=
        List.length_eq_zero_iff.mp (Nat.le_zero.mp (Nat.le_of_succ_le_succ short))
      have live : office.Live lender address token :=
        lives (lender, address, token) List.mem_cons_self
      obtain ⟨between, returned, working⟩ := working_returnLoan orderly id live
      have nothingLeft : between.PaysBack rest := by
        unfold PaysBack
        rw [none]
        exact ⟨Nat.zero_le 1, nofun⟩
      obtain ⟨after, done, last⟩ :=
        inductionHypothesis (working.upheld.2 rented orderly) nothingLeft
      rw [none] at last
      have still : Working [id] (fun _ _ => False) between after :=
        last.weaken (fun _ member => member) fun _ _ _ => ⟨nofun, False.elim⟩
      have did : Action.doChore id (.returnLoan lender address token) office = (.ok (), between) :=
        returned
      exact ⟨after, (Action.run_bind_of_ok did).trans done, (working.thenStill still).weaken
        (fun _ member => member) fun _ _ _ => Option.some_inj.symm⟩

/-- What a wrapper that looks after itself does when it is released. -/
theorem working_discharge {wrapper : Wrapper} (looksAfter : office.LooksAfter wrapper)
    (depth : Nat) :
    ∃ after, Action.discharge depth id wrapper office = (.ok (), after) ∧
      Working [id] (fun index loan => office.due wrapper = some (index, loan.base, loan.token))
        office after := by
  obtain ⟨name, lender, duty, flag, holders⟩ := wrapper
  have set : ∀ duty, Working [id] (fun _ _ => False) office (Action.setDuty id duty office).2 :=
    fun duty => office.working_changeWrapper id (fun _ => rfl) fun _ claimed => claimed
  have nothing : ∀ {after}, Working [id] (fun _ _ => False) office after →
      office.due ⟨name, lender, duty, flag, holders⟩ = none →
        Working [id] (fun index loan =>
          office.due ⟨name, lender, duty, flag, holders⟩ = some (index, loan.base, loan.token))
          office after := fun working none =>
    working.weaken (fun _ member => member) fun _ _ _ =>
      ⟨False.elim, fun due => by cases none.symm.trans due⟩
  unfold Action.discharge
  unfold LooksAfter at looksAfter
  cases duty with
  | plain | automatic => exact ⟨office, rfl, nothing (Working.refl [id] office) rfl⟩
  | loan address token =>
    obtain ⟨after, returned, working⟩ := working_returnLoan orderly id looksAfter
    exact ⟨after, returned, working.weaken (fun _ member => member)
      fun _ _ _ => Option.some_inj.symm⟩
  | lease held =>
    cases held with
    | none => exact ⟨office, rfl, nothing (Working.refl [id] office) rfl⟩
    | some replica =>
      exact ⟨_, rfl, nothing ((set _).thenStill (working_endLease _ id lender replica)) rfl⟩
  | parent child =>
    cases child with
    | none => exact ⟨office, rfl, nothing (Working.refl [id] office) rfl⟩
    | some child => exact looksAfter.elim
  | owner child =>
    cases child with
    | none => exact ⟨office, rfl, nothing (Working.refl [id] office) rfl⟩
    | some child => exact looksAfter.elim
  | capture sensor frame =>
    cases frame with
    | none => exact ⟨office, rfl, nothing (Working.refl [id] office) rfl⟩
    | some frame =>
      have still := set (.capture sensor none)
      have ran : Action.setDuty id (.capture sensor none) office =
        (.ok (), (Action.setDuty id (.capture sensor none) office).2) := rfl
      have back : (Action.setDuty id (.capture sensor none) office).2.TakesBack sensor frame :=
        looksAfter
      obtain ⟨after, done, working⟩ := working_handBack (still.upheld.2 rented orderly) id back
      refine ⟨after, ?_, still.ofStill working⟩
      dsimp only
      rw [Action.run_bind_of_ok ran, done]
  | session sensor =>
    obtain ⟨after, halted, working⟩ := office.working_halt id sensor
    exact ⟨after, halted, nothing working rfl⟩
  | chores todo => exact working_chores orderly id looksAfter
  | spawner spawned => exact looksAfter.elim
  | faulty => exact looksAfter.elim

/-- A wrapper that looks after itself is released, and gives back what it owns. -/
theorem working_retire {wrapper : Wrapper} (found : office.wrappers[id]? = some wrapper)
    (held : wrapper.flag.released = false) (looksAfter : office.LooksAfter wrapper) :
    ∃ after, Action.retire id office = (.ok (), after) ∧ after.released id = true ∧
      Working [id] (fun index loan => office.owned id = some (index, loan.base, loan.token))
        office after := by
  have claimed := Action.claim_of_found found
  rw [if_neg (Bool.eq_false_iff.mp held)] at claimed
  have still := @working_changeWrapper office id (fun wrapper => { wrapper with flag := ⟨true⟩ })
    (fun _ => rfl) fun _ _ => rfl
  have released := office.released_of_claim id
  generalize (Action.changeWrapper id (fun wrapper => { wrapper with flag := ⟨true⟩ }) office).2 =
    marked at claimed still released
  obtain ⟨noted, logged, still'⟩ := working_whenever wrapper.duty.announced
    (Action.log (.wrapperRetired wrapper.name)) rfl
    (marked.working_log id (.wrapperRetired wrapper.name))
  have ready := still.thenStill still'
  obtain ⟨freed, discharged, working⟩ := working_discharge (ready.upheld.2 rented orderly) id
    (ready.looksAfter (fun _ _ _ => not_false) looksAfter) (2 * office.wrappers.size + 1)
  obtain ⟨after, withdrawn, last⟩ := working_whenever wrapper.duty.selfRetiring
    (Action.withdraw wrapper.lender id) rfl (freed.working_withdraw id wrapper.lender)
  refine ⟨after, ?_, last.released id (working.released id (still'.released id released)), ?_⟩
  · show Action.retireWithin (2 * office.wrappers.size + 1 + 1) id office = (.ok (), after)
    rw [Action.retireWithin_succ, Action.run_bind_of_ok claimed]
    dsimp only
    rw [Action.run_bind_of_ok logged, Action.run_bind_of_ok discharged, withdrawn]
  · rw [owned_of_found found held]
    refine ((ready.ofStill working).thenStill last).weaken (fun _ member => member) fun _ _ _ => ?_
    rw [ready.due]

end Retire

end Office

/-! ### Many retirements -/

namespace Action

/-- The wrappers that are told to retire when those in a list are called up: each that has not
been released when its turn comes. -/
def told : List WrapperId → Office → List WrapperId
  | [], _ => []
  | id :: later, office =>
    if office.released id then told later office else id :: told later (retire id office).2

/-- Whether or not one of them fails, these are told to retire, in this order, and no others. -/
theorem retireAll_eq (ids : List WrapperId) (office : Office) :
    retireAll ids office =
      ((told ids office).forM retire >>= fun _ => pure (told ids office).length) office := by
  induction ids generalizing office with
  | nil => rfl
  | cons id later inductionHypothesis =>
    unfold retireAll told
    rw [run_get_bind]
    split
    · exact inductionHypothesis office
    · rw [show (id :: told later (retire id office).2).forM retire =
        retire id >>= fun _ => (told later (retire id office).2).forM retire from rfl, bind_assoc]
      rcases retired : retire id office with ⟨fault | ⟨⟩, after⟩
      · rw [run_bind_of_error retired, run_bind_of_error retired]
      · rw [run_bind_of_ok retired, run_bind_of_ok retired]
        dsimp only
        rw [run_bind_pure, run_bind_pure, inductionHypothesis after, run_bind_pure]
        generalize ((told later after).forM retire) after = result
        obtain ⟨fault | ⟨⟩, last⟩ := result
        · rfl
        · exact congrArg (fun count => (Except.ok count, last)) (Nat.add_comm _ _)

end Action

namespace Office

/-- Wrappers own different loans. -/
def Apart (office : Office) (ids : List WrapperId) : Prop :=
  ∀ first ∈ ids, ∀ second ∈ ids, office.owned first ≠ none →
    office.owned first = office.owned second → first = second

/-- What calling up wrappers comes to: those that had not been released are told to retire, each
once, and are released; what they owned has been given back. -/
structure CalledUp (ids : List WrapperId) (before after : Office) : Prop where
  done : Action.retireAll ids before = (.ok (Action.told ids before).length, after)
  once : (Action.told ids before).Nodup
  fresh : ∀ id, id ∈ Action.told ids before ↔ id ∈ ids ∧ before.released id = false
  released : ∀ id ∈ ids, after.released id = true
  working : Working (Action.told ids before)
    (fun lender loan => ∃ id ∈ ids, before.owned id = some (lender, loan.base, loan.token))
    before after

section CallUp

variable {office : Office} {id : WrapperId} {later : List WrapperId}

theorem CalledUp.skip {after : Office} (released : office.released id = true)
    (rest : CalledUp later office after) : CalledUp (id :: later) office after := by
  have told : Action.told (id :: later) office = Action.told later office := by
    rw [Action.told, if_pos released]
  refine ⟨?_, ?_, fun other => ?_, fun other member => ?_, ?_⟩
  · rw [Action.retireAll, Action.run_get_bind, if_pos released, told]
    exact rest.done
  · rw [told]
    exact rest.once
  · rw [told, rest.fresh, List.mem_cons]
    refine and_congr_left fun unreleased => (or_iff_right ?_).symm
    rintro rfl
    cases released.symm.trans unreleased
  · rcases List.mem_cons.mp member with rfl | member
    · exact rest.working.released other released
    · exact rest.released other member
  · rw [told]
    refine rest.working.weaken (fun _ member => member) fun lender loan _ => ?_
    simp only [List.mem_cons, exists_eq_or_imp, owned_of_released released, reduceCtorEq, false_or]

theorem CalledUp.cons {mid after : Office} (held : office.released id = false)
    (retired : Action.retire id office = (.ok (), mid)) (released : mid.released id = true)
    (working : Working [id]
      (fun lender loan => office.owned id = some (lender, loan.base, loan.token)) office mid)
    (rest : CalledUp later mid after) : CalledUp (id :: later) office after := by
  have told : Action.told (id :: later) office = id :: Action.told later mid := by
    rw [Action.told, if_neg (Bool.eq_false_iff.mp held), retired]
  have others : ∀ {other}, other ≠ id → other ∉ [id] := fun different member =>
    different (List.mem_singleton.mp member)
  have absent : id ∉ Action.told later mid := fun member => by
    cases released.symm.trans ((rest.fresh id).mp member).2
  refine ⟨?_, ?_, fun other => ?_, fun other member => ?_, ?_⟩
  · rw [Action.retireAll, Action.run_get_bind, if_neg (Bool.eq_false_iff.mp held),
      Action.run_bind_of_ok retired, Action.run_bind_of_ok rest.done, told, List.length_cons,
      Nat.add_comm]
    rfl
  · rw [told]
    exact List.nodup_cons.mpr ⟨absent, rest.once⟩
  · rw [told, List.mem_cons, List.mem_cons, rest.fresh]
    by_cases same : other = id
    · subst same
      exact iff_of_true (Or.inl rfl) ⟨Or.inl rfl, held⟩
    · rw [working.released_of_not_mem (others same), or_iff_right same, or_iff_right same]
  · rcases List.mem_cons.mp member with rfl | member
    · exact rest.working.released other released
    · exact rest.released other member
  · rw [told]
    have both := (working.weaken (fun _ member => List.mem_cons.mpr (Or.inl
      (List.mem_singleton.mp member))) fun _ _ _ => Iff.rfl).trans (rest.working.weaken
        (fun _ member => List.mem_cons_of_mem id member) fun _ _ _ => Iff.rfl)
    refine both.weaken (fun _ member => member) fun lender loan _ => ?_
    simp only [List.mem_cons, exists_eq_or_imp]
    constructor
    · rintro (due | ⟨other, member, due⟩)
      · exact Or.inl due
      · refine Or.inr ⟨other, member, ?_⟩
        rwa [working.owned (others ?_)] at due
        rintro rfl
        cases due.symm.trans (owned_of_released released)
    · rintro (due | ⟨other, member, due⟩)
      · exact Or.inl due
      · by_cases same : other = id
        · exact Or.inl (same ▸ due)
        · exact Or.inr ⟨other, member, (working.owned (others same)).trans due⟩

end CallUp

/-- Wrappers that look after themselves and own different loans can be called up together. -/
theorem calledUp {office : Office} {rented : Nat → List Block} (orderly : office.Orderly rented)
    {ids : List WrapperId} (proper : ∀ id ∈ ids, office.Proper id) (apart : office.Apart ids) :
    ∃ after, CalledUp ids office after := by
  induction ids generalizing office with
  | nil =>
    refine ⟨office, rfl, List.nodup_nil, fun _ => ⟨nofun, fun member => nomatch member.1⟩,
      nofun, ?_⟩
    exact (Working.refl [] office).weaken (fun _ member => member) fun _ _ _ =>
      ⟨False.elim, fun ⟨_, member, _⟩ => nomatch member⟩
  | cons id later inductionHypothesis =>
    by_cases released : office.released id = true
    · obtain ⟨after, rest⟩ := inductionHypothesis orderly
        (fun other member => proper other (List.mem_cons_of_mem id member))
        fun first member second member' =>
          apart first (List.mem_cons_of_mem id member) second (List.mem_cons_of_mem id member')
      exact ⟨after, rest.skip released⟩
    obtain ⟨wrapper, found, held⟩ := held_of_unreleased released
    obtain ⟨mid, retired, released', working⟩ := working_retire orderly id found held
      (proper id List.mem_cons_self wrapper found held)
    have owned : ∀ {other}, mid.owned other ≠ none →
        other ≠ id ∧ mid.owned other = office.owned other := by
      intro other owns
      have different : other ≠ id := by
        rintro rfl
        exact owns (owned_of_released released')
      exact ⟨different, working.owned fun member => different (List.mem_singleton.mp member)⟩
    have proper' : ∀ other ∈ later, mid.Proper other := by
      intro other member wrapper' found' held'
      have different : other ≠ id := by
        rintro rfl
        rw [released_of_found found'] at released'
        cases held'.symm.trans released'
      rw [Option.mem_def, working.others other fun member =>
        different (List.mem_singleton.mp member)] at found'
      have looksAfter := proper other (List.mem_cons_of_mem id member) wrapper' found' held'
      refine working.looksAfter (fun lender loan due gone => different ?_) looksAfter
      have owns : office.owned other = some (lender, loan.base, loan.token) := by
        rw [owned_of_found found' held', due]
      exact apart other (List.mem_cons_of_mem id member) id List.mem_cons_self
        (owns ▸ Option.some_ne_none _) (owns.trans gone.symm)
    have apart' : mid.Apart later := by
      intro first member second member' owns same
      have here := (owned owns).2
      have there := (owned (same.symm.trans_ne owns)).2
      exact apart first (List.mem_cons_of_mem id member) second (List.mem_cons_of_mem id member')
        (here.symm.trans_ne owns) (here.symm.trans (same.trans there))
    obtain ⟨after, rest⟩ :=
      inductionHypothesis (working.upheld.2 rented orderly) proper' apart'
    exact ⟨after, rest.cons (Bool.eq_false_of_not_eq_true released) retired released' working⟩

end Office

end MemoryLending
