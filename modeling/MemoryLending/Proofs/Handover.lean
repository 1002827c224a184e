/-
This file follows a frame back to its lender. A capture that is told to retire, or loses its last
holder, hands its frame back through the free callback the first time, and never again; the loan of
the frame is then taken back, and nothing else. A sweep tells every capture that is left. Whatever
retires or is let go of, captures that are not told keep their frames.
-/

import MemoryLending.Proofs.Captures

namespace MemoryLending

namespace Action

/-- Nothing happens when somebody lets go of a wrapper that nobody holds. -/
theorem letGo_of_unheld {id : WrapperId} {office : Office}
    (unheld : unhold id office = (.ok none, office)) : letGo id office = (.ok (), office) := by
  show letGoWithin (2 * office.wrappers.size + 1 + 1) id office = _
  rw [letGoWithin_succ, run_bind_of_ok unheld]
  rfl

/-- The last one to let go of a wrapper ends it. -/
theorem letGo_of_last {id : WrapperId} {office : Office} {wrapper : Wrapper}
    (found : office.wrappers[id]? = some wrapper) (last : wrapper.holders = 1)
    (alone : wrapper.duty.child? = none) :
    letGo id office =
      (whenever wrapper.duty.selfRetiring (retireWithin (2 * office.wrappers.size + 1) id) >>=
        fun _ => whenever wrapper.duty.announced (log (.wrapperDropped wrapper.name)))
        (changeWrapper id (fun wrapper => { wrapper with holders := wrapper.holders - 1 })
          office).2 := by
  have unheld : unhold id office = (.ok (some wrapper), (changeWrapper id (fun wrapper =>
      { wrapper with holders := wrapper.holders - 1 }) office).2) := by
    unfold unhold
    rw [run_get_bind, found]
    dsimp only
    rw [if_neg (last ▸ Nat.one_ne_zero), if_pos last]
    rfl
  show letGoWithin (2 * office.wrappers.size + 1 + 1) id office = _
  rw [letGoWithin_succ, run_bind_of_ok unheld]
  dsimp only
  rw [alone]
  simp only [bind_pure_unit]

end Action

namespace Office

variable {captures : List (WrapperId × Frame)}

/-! ### One frame -/

/-- One capture has handed its frame back and left the roster, and no other has been touched. -/
structure HandedBack (id : WrapperId) (frame : Frame) (before after : Office) : Prop where
  size : after.lenders.size = before.lenders.size
  served : after.served = before.served
  connected : after.connected 0 = before.connected 0
  stakes : ∀ other ≠ id, after.stake other = before.stake other
  emptied : after.Emptied id
  roster : ∀ other ∈ (after.lender 0).roster.entries, other ∈ (before.lender 0).roster.entries
  attends : ∀ other ≠ id, before.Attended other → after.Attended other
  loans : ∃ loan : Loan, loan.debt = frame.debt ∧
    (loan :: (after.lender 0).loans.toList).Perm (before.lender 0).loans.toList
  dealings : after.journal.dealings =
    (before.journal.grants, frame.reclaimed :: before.journal.returns)

theorem HandedBack.captured {id : WrapperId} {frame : Frame} {before after : Office}
    (handed : HandedBack id frame before after) (captured : before.Captured captures)
    (member : (id, frame) ∈ captures) (unreleased : before.released id = false) :
    after.Captured captures := by
  have gone : after.released id = true := released_of_stake handed.emptied.1
  have same : ∀ other ∈ captures, other.1 ≠ id →
      after.released other.1 = before.released other.1 := fun other here different =>
    captured.released_of_same here (handed.stakes other.1 different)
  refine
    { size := handed.size.trans captured.size
      hooked := fun connected => ?_
      connected := fun some => handed.connected.trans (captured.connected some)
      distinct := captured.distinct
      kept := fun capture here => ?_
      others := fun other stake has => ?_
      granted := (congrArg Prod.fst handed.dealings).trans captured.granted
      returned := ?_
      loans := ?_ }
  · rw [handed.connected] at connected
    exact handed.served.trans (captured.hooked connected)
  · by_cases here' : capture.1 = id
    · exact Or.inr (here' ▸ handed.emptied)
    · have unchanged := handed.stakes capture.1 here'
      exact (captured.kept capture here).imp unchanged.trans fun ⟨emptied, off⟩ =>
        ⟨unchanged.trans emptied, fun listed => off (handed.roster capture.1 listed)⟩
  · by_cases here : other = id
    · exact Or.inr ⟨frame, here ▸ member⟩
    · exact captured.others other stake ((handed.stakes other here).symm.trans has)
  -- one more record of a return, and one more capture that has been released
  · have more := filter_perm_cons captured.distinct member gone unreleased same
    rw [show after.journal.returns = frame.reclaimed :: before.journal.returns from
      congrArg Prod.snd handed.dealings]
    have handed := more.map fun capture : WrapperId × Frame => capture.2.reclaimed
    exact (captured.returned.cons frame.reclaimed).trans handed.symm
  · obtain ⟨loan, debt, struck⟩ := handed.loans
    have fewer := @filter_perm_cons _ _ _ _ captures captured.distinct (id, frame) member
      (!before.released ·.1) (!after.released ·.1) (congrArg (!·) unreleased)
      (congrArg (!·) gone) fun other here different =>
        congrArg (!·) (same other here different).symm
    have owes := fewer.map fun capture : WrapperId × Frame => capture.2.debt
    have owed := (struck.map Loan.debt).trans (captured.loans.trans owes)
    rw [List.map_cons, List.map_cons, debt] at owed
    exact owed.cons_inv

/-- The office in which a capture has been released and its frame is taken out. -/
def emptied (office : Office) (id : WrapperId) : Office :=
  (Action.setDuty id (.capture 0 none)
    (Action.changeWrapper id (fun wrapper => { wrapper with flag := ⟨true⟩ }) office).2).2

/-- The office in which, besides, the frame is back at the desk and the capture off the roster. -/
def returned (office : Office) (id : WrapperId) (desk : Desk) : Office :=
  (Action.withdraw 0 id ((office.emptied id).withDesk 0 desk)).2

section Filled

variable {office : Office} {id : WrapperId} {name : String} {frame : Frame} {holders : Nat}
  (found : office.wrappers[id]? = some ⟨name, 0, .capture 0 (some frame), ⟨false⟩, holders⟩)

include found

theorem getElem?_emptied (other : WrapperId) :
    (office.emptied id).wrappers[other]? =
      if id = other then some ⟨name, 0, .capture 0 none, ⟨true⟩, holders⟩
      else office.wrappers[other]? := by
  unfold emptied Action.setDuty
  rw [getElem?_changeWrapper, getElem?_changeWrapper]
  by_cases here : id = other
  · subst here
    rw [if_pos rfl, if_pos rfl, if_pos rfl, found]
    rfl
  · rw [if_neg here, if_neg here, if_neg here]

theorem retireWithin_of_filled {desk : Desk} (connected : office.connected 0 = true)
    (served : office.served = some 0)
    (reclaimed : (office.desk 0).reclaim frame.address frame.context = (.ok (), desk))
    (depth : Nat) :
    Action.retireWithin (depth + 1) id office = (.ok (), office.returned id desk) := by
  have claimed := Action.claim_of_found found
  rw [if_neg Bool.false_ne_true] at claimed
  let marked := (Action.changeWrapper id (fun wrapper => { wrapper with flag := ⟨true⟩ }) office).2
  have back : Action.handBack 0 frame (office.emptied id) =
      (.ok (), (office.emptied id).withDesk 0 desk) := by
    have looked : Action.sensor 0 (office.emptied id) =
        (.ok (office.sensors.getD 0 default), office.emptied id) := rfl
    unfold Action.handBack
    rw [Action.run_bind_of_ok looked,
      if_pos (show (office.sensors.getD 0 default).connected = true from connected),
      Action.answerFree_of_served (show (office.emptied id).served = some 0 from served),
      show ((office.emptied id).desk 0).reclaim frame.address frame.context = (.ok (), desk) from
        reclaimed]
  have discharged :
      Action.discharge depth id ⟨name, 0, .capture 0 (some frame), ⟨false⟩, holders⟩ marked =
        (.ok (), (office.emptied id).withDesk 0 desk) := by
    have set : Action.setDuty id (.capture 0 none) marked = (.ok (), office.emptied id) := rfl
    show (Action.setDuty id (.capture 0 none) >>= fun _ => Action.handBack 0 frame) marked = _
    rw [Action.run_bind_of_ok set, back]
  have quiet : Action.whenever (Duty.capture 0 (some frame)).announced
      (Action.log (.wrapperRetired name)) marked = (.ok (), marked) := rfl
  rw [Action.retireWithin_succ, Action.run_bind_of_ok claimed]
  dsimp only
  rw [Action.run_bind_of_ok quiet, Action.run_bind_of_ok discharged]
  rfl

theorem handedBack_of_filled {desk : Desk} {loan : Loan} (inRange : 0 < office.lenders.size)
    (debt : loan.debt = frame.debt) (roster : desk.lender.roster = (office.lender 0).roster)
    (struck : (loan :: desk.lender.loans.toList).Perm (office.lender 0).loans.toList)
    (dealt : desk.dealings = (office.journal.grants, frame.reclaimed :: office.journal.returns)) :
    HandedBack id frame office (office.returned id desk) := by
  have lender : ((office.emptied id).withDesk 0 desk).lender 0 = desk.lender := by
    rw [Office.lender_withDesk]
    exact if_pos ⟨rfl, inRange⟩
  have size : ((office.emptied id).withDesk 0 desk).lenders.size = office.lenders.size :=
    (office.emptied id).size_withDesk 0 desk
  have stake : ∀ other, (office.returned id desk).stake other =
      if id = other then some (0, .capture 0 none, true) else office.stake other := by
    intro other
    show (office.emptied id).stake other = _
    unfold Office.stake
    rw [getElem?_emptied found]
    split <;> rfl
  have left := ((office.emptied id).withDesk 0 desk).undisturbed_withdraw 0 id
  refine
    { size := left.size.trans size
      served := rfl
      connected := rfl
      stakes := fun other different => ?_
      emptied := ⟨?_, ?_⟩
      roster := fun other member => ?_
      attends := fun other different attended => ?_
      loans := ⟨loan, debt, ?_⟩
      dealings := left.dealings.trans dealt }
  · rw [stake, if_neg different.symm]
  · rw [stake, if_pos rfl]
  · unfold returned
    rw [Action.withdraw, Office.lender_changeRoster, if_pos ⟨rfl, size ▸ inRange⟩]
    exact fun member => bne_iff_ne.mp (List.mem_filter.mp member).2 rfl
  · unfold returned at member
    rw [Action.withdraw, Office.lender_changeRoster, if_pos ⟨rfl, size ▸ inRange⟩, lender] at member
    rw [← roster]
    exact (List.filter_sublist.trans List.filter_sublist).subset member
  · refine left.attends other (fun same => different (List.mem_singleton.mp same)) ⟨?_, ?_⟩
    · have lives := attended.1
      unfold Office.alive at lives ⊢
      rw [show ((office.emptied id).withDesk 0 desk).wrappers[other]? = _ from
        getElem?_emptied found other, if_neg different.symm]
      exact lives
    · rw [lender, roster]
      exact attended.2
  · rw [show ((office.returned id desk).lender 0).loans = _ from left.loans, lender]
    exact struck

end Filled

/-- The desk takes the frame of a capture back that has not been released, and then the frame is
handed back. -/
theorem Captured.reclaim {office : Office} {rented : Nat → List Block}
    (captured : office.Captured captures) (orderly : office.Orderly rented) {id : WrapperId}
    {name : String} {frame : Frame} {holders : Nat} (member : (id, frame) ∈ captures)
    (found : office.wrappers[id]? = some ⟨name, 0, .capture 0 (some frame), ⟨false⟩, holders⟩) :
    ∃ desk, (office.desk 0).reclaim frame.address frame.context = (.ok (), desk) ∧
      HandedBack id frame office (office.returned id desk) := by
  obtain ⟨loan, lent, base, token, length⟩ := captured.lends member (released_of_found found)
  have inRange : 0 < office.lenders.size := captured.size ▸ Nat.one_pos
  have listed : (office.desk 0).lender.loans.at? loan.base = some loan :=
    (LoanBook.at?_eq_some_iff (orderly.sound inRange).ordered).mpr ⟨lent, rfl⟩
  obtain ⟨desk, reclaimed, loans, roster, dealt⟩ := Desk.reclaim_of_lent listed
  have struck := LoanBook.perm_strike listed
  rw [← loans] at struck
  have debt : loan.debt = frame.debt := by
    unfold Loan.debt Frame.debt
    rw [base, token, length]
  have record : Event.reclaimed loan.base loan.length loan.token = frame.reclaimed := by
    unfold Frame.reclaimed
    rw [base, token, length]
  rw [record] at dealt
  rw [base, token] at reclaimed
  exact ⟨desk, reclaimed, handedBack_of_filled found inRange debt roster struck dealt⟩

/-- The first time that a capture is told to retire, it hands its frame back. -/
theorem Captured.handBack {office : Office} {rented : Nat → List Block}
    (captured : office.Captured captures) (orderly : office.Orderly rented) {id : WrapperId}
    {frame : Frame} (member : (id, frame) ∈ captures) (unreleased : office.released id = false)
    (depth : Nat) :
    ∃ after, Action.retireWithin (depth + 1) id office = (.ok (), after) ∧
      HandedBack id frame office after := by
  have filled : office.Filled id frame := (captured.filled_iff member).mpr unreleased
  obtain ⟨⟨name, lender, duty, ⟨released⟩, holders⟩, found, stake⟩ := found_of_stake filled
  cases stake
  have connected := captured.connected (List.ne_nil_of_mem member)
  obtain ⟨desk, reclaimed, handed⟩ := captured.reclaim orderly member found
  exact ⟨_, retireWithin_of_filled found connected (captured.hooked connected) reclaimed depth,
    handed⟩

/-! ### Wrappers that retire and end -/

/-- How many hold a wrapper. -/
def holders (office : Office) (id : WrapperId) : Nat :=
  (office.wrappers[id]?.map Wrapper.holders).getD 0

/-- Among the captures, those in `ids` and no others have been released, and whoever has not been
released is attended as before. -/
structure Discharged (captures : List (WrapperId × Frame)) (ids : List WrapperId)
    (before after : Office) : Prop where
  captured : after.Captured captures
  released : ∀ capture ∈ captures, after.released capture.1 = true ↔
    before.released capture.1 = true ∨ capture.1 ∈ ids
  stays : ∀ capture ∈ captures, after.released capture.1 = false →
    before.Attended capture.1 → after.Attended capture.1

namespace Discharged

variable {ids more : List WrapperId} {before between after : Office}

/-- Whoever is not released had not been released. -/
theorem unreleased (discharged : Discharged captures ids before after)
    {capture : WrapperId × Frame} (member : capture ∈ captures)
    (left : after.released capture.1 = false) : before.released capture.1 = false := by
  refine Bool.eq_false_of_not_eq_true fun released => ?_
  cases left.symm.trans ((discharged.released capture member).mpr (Or.inl released))

theorem trans (first : Discharged captures ids before between)
    (second : Discharged captures more between after) :
    Discharged captures (ids ++ more) before after where
  captured := second.captured
  released capture member := by
    rw [second.released capture member, first.released capture member, List.mem_append, or_assoc]
  stays capture member left attended :=
    second.stays capture member left
      (first.stays capture member (second.unreleased member left) attended)

/-- The same captures described in another way. -/
theorem congr (discharged : Discharged captures ids before after)
    (same : ∀ capture ∈ captures, before.released capture.1 = false →
      (capture.1 ∈ ids ↔ capture.1 ∈ more)) : Discharged captures more before after :=
  { discharged with
    released := fun capture member => by
      rw [discharged.released capture member]
      by_cases released : before.released capture.1 = true
      · exact iff_of_true (Or.inl released) (Or.inl released)
      · rw [same capture member (Bool.eq_false_of_not_eq_true released)] }

end Discharged

/-- What touches no frame releases no capture. -/
theorem Undisturbed.discharged {ids : List WrapperId} {before after : Office}
    (undisturbed : Undisturbed ids before after) (captured : before.Captured captures)
    (done : ∀ capture ∈ captures, capture.1 ∈ ids → before.released capture.1 = true) :
    Discharged captures ids before after where
  captured := undisturbed.captured captured
  released capture member := by
    rw [undisturbed.released captured member]
    exact (or_iff_left_of_imp (done capture member)).symm
  stays capture member unreleased attended := by
    rw [undisturbed.released captured member] at unreleased
    refine undisturbed.attends capture.1 (fun here => ?_) attended
    cases unreleased.symm.trans (done capture member here)

theorem Undisturbed.thenDischarged {ids : List WrapperId} {before between after : Office}
    (undisturbed : Undisturbed ids before between) (captured : before.Captured captures)
    (discharged : Discharged captures ids between after) :
    Discharged captures ids before after where
  captured := discharged.captured
  released capture member := by
    rw [discharged.released capture member, undisturbed.released captured member]
  stays capture member unreleased attended := by
    refine discharged.stays capture member unreleased (undisturbed.attends capture.1 ?_ attended)
    intro here
    cases unreleased.symm.trans ((discharged.released capture member).mpr (Or.inr here))

theorem HandedBack.discharged {id : WrapperId} {frame : Frame} {before after : Office}
    (handed : HandedBack id frame before after) (captured : before.Captured captures)
    (member : (id, frame) ∈ captures) (unreleased : before.released id = false) :
    Discharged captures [id] before after where
  captured := handed.captured captured member unreleased
  released capture here := by
    rw [List.mem_singleton]
    by_cases same : capture.1 = id
    · exact iff_of_true (same ▸ released_of_stake handed.emptied.1) (Or.inr same)
    · rw [captured.released_of_same here (handed.stakes capture.1 same), or_iff_left same]
  stays capture here unreleased' attended := by
    refine handed.attends capture.1 (fun same => ?_) attended
    rw [same, released_of_stake handed.emptied.1] at unreleased'
    cases unreleased'

section Aside

variable {office : Office} {id : WrapperId} {wrapper : Wrapper}
  (found : office.wrappers[id]? = some wrapper)

include found

/-- A claim that is made again, or by a wrapper that is no capture. -/
theorem undisturbed_claim (idle : wrapper.duty.isCapture = true → wrapper.flag.released = true) :
    Undisturbed [id] office
      (Action.changeWrapper id (fun wrapper => { wrapper with flag := ⟨true⟩ }) office).2 := by
  refine office.undisturbed_changeWrapper id fun other found' => ?_
  cases found.symm.trans found'
  unfold Wrapper.stake
  cases capture : wrapper.duty.isCapture with
  | true => rw [idle capture]
  | false => rfl

/-- A wrapper that has been released does nothing when it is told to retire. -/
theorem retireWithin_of_released (released : wrapper.flag.released = true) (depth : Nat) :
    Action.retireWithin (depth + 1) id office =
      (.ok (), (Action.changeWrapper id (fun wrapper => { wrapper with flag := ⟨true⟩ })
        office).2) := by
  have claimed := Action.claim_of_found found
  rw [if_pos released] at claimed
  rw [Action.retireWithin_succ, Action.run_bind_of_ok claimed]
  rfl

/-- A wrapper that holds nothing touches no frame when it is told to retire. -/
theorem undisturbed_retireWithin (aside : wrapper.duty.isAside = true) (depth : Nat) :
    ∃ after, Action.retireWithin (depth + 1) id office = (.ok (), after) ∧
      Undisturbed [id] office after := by
  have marks := undisturbed_claim found fun capture => by
    cases (Duty.isCapture_of_aside aside).symm.trans capture
  by_cases released : wrapper.flag.released = true
  · exact ⟨_, retireWithin_of_released found released depth, marks⟩
  have claimed := Action.claim_of_found found
  rw [if_neg released] at claimed
  generalize (Action.changeWrapper id (fun wrapper => { wrapper with flag := ⟨true⟩ }) office).2 =
    marked at claimed marks
  have logged := @undisturbed_log marked [id] (.wrapperRetired wrapper.name) rfl
  obtain ⟨name, lender, duty, flag, holders⟩ := wrapper
  rw [Action.retireWithin_succ, Action.run_bind_of_ok claimed]
  cases duty with
  | plain => exact ⟨_, rfl, marks.trans logged⟩
  | automatic =>
    exact ⟨_, rfl, (marks.trans logged).trans (undisturbed_withdraw _ lender id)⟩
  | session sensor =>
    obtain ⟨after, halted, still⟩ := marked.undisturbed_halt [id] sensor
    refine ⟨after, ?_, marks.trans still⟩
    show (Action.halt sensor >>= fun _ => pure ()) marked = _
    rw [Action.run_bind_of_ok halted]
    rfl
  | _ => cases aside

end Aside

section Retire

variable {office : Office} {rented : Nat → List Block} (captured : office.Captured captures)
  (orderly : office.Orderly rented)

include captured orderly

/-- Whoever is told to retire, a capture that has its frame hands it back, and nothing else. -/
theorem Captured.retireWithin (id : WrapperId) (depth : Nat) :
    ∃ after, Action.retireWithin (depth + 1) id office = (.ok (), after) ∧
      Discharged captures [id] office after := by
  cases found : office.wrappers[id]? with
  | none =>
    have absent := Action.claim_of_absent found
    refine ⟨office, ?_, (Undisturbed.refl [id] office).discharged captured fun capture _ same => ?_⟩
    · rw [Action.retireWithin_succ, Action.run_bind_of_ok absent]
      rfl
    · unfold Office.released
      rw [List.mem_singleton.mp same, found]
  | some wrapper =>
    have has : office.stake id = some wrapper.stake := congrArg (Option.map Wrapper.stake) found
    rcases captured.others id _ has with aside | ⟨frame, member⟩
    · obtain ⟨after, retired, still⟩ := undisturbed_retireWithin found aside depth
      refine ⟨after, retired, still.discharged captured fun capture member same => ?_⟩
      rw [← List.mem_singleton.mp same] at has
      cases (captured.not_aside member has).symm.trans aside
    · by_cases released : office.released id = true
      · have flag := (released_of_found found).symm.trans released
        refine ⟨_, retireWithin_of_released found flag depth,
          (undisturbed_claim found fun _ => flag).discharged captured fun capture _ same => ?_⟩
        rw [List.mem_singleton.mp same]
        exact released
      · have unreleased := Bool.eq_false_of_not_eq_true released
        obtain ⟨after, retired, handed⟩ := captured.handBack orderly member unreleased depth
        exact ⟨after, retired, handed.discharged captured member unreleased⟩

theorem Captured.retire (id : WrapperId) :
    ∃ after, Action.retire id office = (.ok (), after) ∧ Discharged captures [id] office after := by
  obtain ⟨after, retired, discharged⟩ :=
    captured.retireWithin orderly id (2 * office.wrappers.size + 1)
  refine ⟨after, ?_, discharged⟩
  show Action.retireWithin (2 * office.wrappers.size + 1 + 1) id office = _
  exact retired

omit orderly in
/-- A wrapper that has lost its last holder retires if it is a capture. -/
theorem Captured.retireLast {id : WrapperId} {wrapper : Wrapper} {left : Office}
    (found : office.wrappers[id]? = some wrapper) (fewer : Undisturbed [id] office left)
    (orderly : left.Orderly rented) (depth : Nat) :
    ∃ after, Action.whenever wrapper.duty.selfRetiring (Action.retireWithin (depth + 1) id) left =
        (.ok (), after) ∧ Discharged captures [id] office after := by
  unfold Action.whenever
  split
  · obtain ⟨after, retired, discharged⟩ :=
      (fewer.captured captured).retireWithin orderly id depth
    exact ⟨after, retired, fewer.thenDischarged captured discharged⟩
  · rename_i stays
    refine ⟨left, rfl, fewer.discharged captured fun capture member same => ?_⟩
    have has : office.stake id = some wrapper.stake := congrArg (Option.map Wrapper.stake) found
    rw [← List.mem_singleton.mp same] at has
    rcases captured.simple found with aside | capture
    · cases (captured.not_aside member has).symm.trans aside
    · exact absurd (Duty.selfRetiring_of_capture capture) stays

/-- Whoever is let go of, a capture that loses its last holder hands its frame back. -/
theorem Captured.letGo (id : WrapperId) :
    ∃ after, Action.letGo id office = (.ok (), after) ∧
      Discharged captures (if office.holders id = 1 then [id] else []) office after := by
  have nothing : Discharged captures [] office office :=
    (Undisturbed.refl [] office).discharged captured nofun
  cases found : office.wrappers[id]? with
  | none =>
    have none : office.holders id = 0 := by
      unfold Office.holders
      rw [found]
      rfl
    rw [none, if_neg Nat.zero_ne_one]
    refine ⟨office, Action.letGo_of_unheld ?_, nothing⟩
    unfold Action.unhold
    rw [Action.run_get_bind, found]
    rfl
  | some wrapper =>
    have count : office.holders id = wrapper.holders := by
      unfold Office.holders
      rw [found]
      rfl
    rw [count]
    have fewer : Undisturbed [id] office
        (Action.changeWrapper id (fun wrapper => { wrapper with holders := wrapper.holders - 1 })
          office).2 := office.undisturbed_changeWrapper id fun _ _ => rfl
    -- only the last one to let go ends the wrapper
    rcases Nat.lt_trichotomy wrapper.holders 1 with none | last | more
    · rw [if_neg (Nat.ne_of_lt none)]
      refine ⟨office, Action.letGo_of_unheld ?_, nothing⟩
      unfold Action.unhold
      rw [Action.run_get_bind, found]
      dsimp only
      rw [if_pos (Nat.lt_one_iff.mp none)]
      rfl
    · rw [if_pos last,
        Action.letGo_of_last found last (Duty.child?_eq_none (captured.simple found))]
      obtain ⟨mid, retired, discharged⟩ := captured.retireLast found fewer
        ((routine_upholds.changeWrapper id _ office).2 rented orderly) (2 * office.wrappers.size)
      have dropped : ∃ after, Action.whenever wrapper.duty.announced
          (Action.log (.wrapperDropped wrapper.name)) mid = (.ok (), after) ∧
            Undisturbed [] mid after := by
        unfold Action.whenever
        split
        · exact ⟨_, rfl, @undisturbed_log mid [] (.wrapperDropped wrapper.name) rfl⟩
        · exact ⟨_, rfl, Undisturbed.refl [] mid⟩
      obtain ⟨after, dropped, still⟩ := dropped
      refine ⟨after, ?_, discharged.trans (still.discharged discharged.captured nofun)⟩
      rw [Action.run_bind_of_ok retired, dropped]
    · rw [if_neg (Nat.ne_of_gt more)]
      refine ⟨_, Action.letGo_of_held found more,
        (fewer.spare fun other here _ attended => ?_).discharged captured nofun⟩
      obtain rfl := List.mem_singleton.mp here
      refine ⟨?_, attended.2⟩
      unfold Office.alive
      rw [Office.getElem?_changeWrapper, if_pos rfl, found]
      exact bne_iff_ne.mpr (Nat.sub_ne_zero_of_lt more)

end Retire

/-! ### Sweeps -/

section Sweep

variable {rented : Nat → List Block}

/-- Captures that are called up hand back the frames that they have. -/
theorem Captured.retireAll {office : Office} (captured : office.Captured captures)
    (orderly : office.Orderly rented) (ids : List WrapperId) :
    ∃ count after, Action.retireAll ids office = (.ok count, after) ∧
      Discharged captures ids office after := by
  induction ids generalizing office with
  | nil => exact ⟨0, office, rfl, (Undisturbed.refl [] office).discharged captured nofun⟩
  | cons id later inductionHypothesis =>
    unfold Action.retireAll
    rw [Action.run_get_bind]
    by_cases released : office.released id = true
    · rw [if_pos released]
      obtain ⟨count, after, retired, discharged⟩ := inductionHypothesis captured orderly
      refine ⟨count, after, retired, discharged.congr fun capture _ unreleased => ?_⟩
      rw [List.mem_cons, or_iff_right]
      rintro rfl
      cases unreleased.symm.trans released
    · rw [if_neg released]
      obtain ⟨mid, retired, first⟩ := captured.retire orderly id
      have orderly' := (routine_upholds.retire id office).2 rented orderly
      rw [retired] at orderly'
      obtain ⟨count, after, rest, second⟩ := inductionHypothesis first.captured orderly'
      rw [Action.run_bind_of_ok retired, Action.run_bind_of_ok rest]
      exact ⟨1 + count, after, rfl, first.trans second⟩

/-- Whoever is let go of, the captures that are released meanwhile stay so. -/
theorem Captured.letGoAll {office : Office} (captured : office.Captured captures)
    (orderly : office.Orderly rented) (ids : List WrapperId) :
    ∃ ended after, Action.letGoAll ids office = (.ok (), after) ∧
      Discharged captures ended office after := by
  induction ids generalizing office with
  | nil => exact ⟨[], office, rfl, (Undisturbed.refl [] office).discharged captured nofun⟩
  | cons id later inductionHypothesis =>
    obtain ⟨mid, left, first⟩ := captured.letGo orderly id
    have orderly' := (routine_upholds.letGo id office).2 rented orderly
    rw [left] at orderly'
    obtain ⟨ended, after, rest, second⟩ := inductionHypothesis first.captured orderly'
    refine ⟨_, after, ?_, first.trans second⟩
    show (Action.letGo id >>= fun _ => Action.letGoAll later) office = _
    rw [Action.run_bind_of_ok left, rest]

/-- A muster touches no frame. -/
theorem undisturbed_muster (office : Office) :
    ∃ pruned after, Action.muster 0 office = (.ok (office.living 0, pruned), after) ∧
      Undisturbed (office.living 0) office after := by
  obtain ⟨after, mustered, up, -, -⟩ := Action.mustering 0 office
  have stake : ∀ id, after.stake id = office.stake id := fun id => by
    unfold Office.stake
    rw [up.wrappers, Option.map_map]
    rfl
  refine ⟨_, after, mustered,
    { size := up.upheld.1
      served := up.served
      connected := ?_
      grown := Nat.le_of_eq up.size_wrappers.symm
      stakes := fun id _ => stake id
      fresh := Undisturbed.fresh_of_same stake
      roster := fun id member => Or.inl ((up.rosters 0).subset member)
      attends := fun id other attended =>
        absurd (List.mem_filter.mpr ⟨attended.2, attended.1⟩) other
      loans := up.loans 0
      dealings := congrArg Journal.dealings up.journal }⟩
  unfold Office.connected
  rw [up.sensors]

/-- A sweep that finds no loan left ends well, and touches no frame any more. -/
theorem sweep_of_cleared {office mid : Office} {retired pruned : Nat}
    (done : Action.retiring 0 office = (.ok (retired, pruned), mid))
    (none : (mid.lender 0).loans.toList = []) :
    ∃ after, Action.sweep 0 office = (.ok ⟨retired, pruned⟩, after) ∧ Undisturbed [] mid after := by
  have read : ∀ {Answer : Type} (question : Desk → Answer), Action.readDesk 0 question mid =
      (.ok (question (mid.desk 0)), mid) := fun _ => rfl
  have passed : Action.requireNoLoans 0 mid = (.ok (), mid) := by
    unfold Action.requireNoLoans
    rw [Action.run_bind_of_ok (read _),
      if_neg (not_not_intro (show (mid.desk 0).lender.loans.count = 0 from
        List.length_eq_zero_iff.mpr none))]
    rfl
  rw [Action.sweep_eq, Action.run_bind_of_ok done, Action.run_bind_of_ok passed,
    Action.run_bind_of_ok (read _)]
  split
  · exact ⟨_, rfl, (mid.undisturbed_log [] rfl).trans (undisturbed_log _ [] rfl)⟩
  · exact ⟨_, rfl, mid.undisturbed_log [] rfl⟩

/-- A sweep releases every capture, if those that have not been released are on the roster. -/
theorem Captured.sweep {office : Office} (captured : office.Captured captures)
    (orderly : office.Orderly rented)
    (listed : ∀ capture ∈ captures, office.released capture.1 = false →
      office.Attended capture.1) :
    ∃ report after, Action.sweep 0 office = (.ok report, after) ∧
      Discharged captures (captures.map Prod.fst) office after := by
  obtain ⟨pruned, mustered, up, still⟩ := undisturbed_muster office
  have orderly₁ := (routine_upholds.muster 0 office).2 rented orderly
  rw [up] at orderly₁
  obtain ⟨count, worked, retired, first⟩ :=
    (still.captured captured).retireAll orderly₁ (office.living 0)
  have orderly₂ := (routine_upholds.retireAll routine_upholds.retire (office.living 0)
    mustered).2 rented orderly₁
  rw [retired] at orderly₂
  obtain ⟨ended, mid, left, second⟩ := first.captured.letGoAll orderly₂ (office.living 0)
  have done : Action.retiring 0 office = (.ok (count, pruned), mid) := by
    unfold Action.retiring
    rw [Action.run_bind_of_ok up]
    exact Action.run_bind_of_ok (Action.thenLetGo_of_ok retired left)
  -- whoever ends when the sweep lets go has been released by then, so nobody else is named
  have wide : Undisturbed (office.living 0 ++ ended) office mustered :=
    still.spare fun id here absent => absurd (List.mem_append_left ended here) absent
  have swept := (wide.thenDischarged captured (first.trans second)).congr
    fun capture member unreleased => iff_of_true
      (List.mem_append_left ended (List.mem_filter.mpr (listed capture member unreleased).symm))
      (List.mem_map_of_mem member)
  have all : captures.filter (!mid.released ·.1) = [] := by
    refine List.filter_eq_nil_iff.mpr fun capture member => ?_
    rw [(swept.released capture member).mpr (Or.inr (List.mem_map_of_mem member))]
    exact Bool.false_ne_true
  have none : (mid.lender 0).loans.toList = [] := by
    have owed := swept.captured.loans
    rw [all] at owed
    exact List.map_eq_nil_iff.mp owed.eq_nil
  obtain ⟨after, ended, closed⟩ := sweep_of_cleared done none
  refine ⟨_, after, ended, (swept.trans (closed.discharged swept.captured nofun)).congr
    fun _ _ _ => ?_⟩
  rw [List.append_nil]

end Sweep

end Office

namespace Action

variable {lender : Nat} {office after : Office} {report : SweepReport}
  (swept : sweep lender office = (.ok report, after))

include swept

theorem endGuard_of_swept : endGuard lender office = (.ok (), after) := by
  unfold endGuard
  rw [run_tryCatch, run_discard, swept]
  rfl

/-- A guard that a panic passes through lets it pass. -/
theorem unwindGuard_of_swept :
    (unwindGuard lender : Action Unit) office = (.error (.panicked .unwinding), after) := by
  unfold unwindGuard
  rw [run_bind, run_tryCatch, run_discard, swept]
  rfl

end Action

end MemoryLending
