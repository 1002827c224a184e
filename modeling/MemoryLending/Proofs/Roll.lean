/-
This file keeps the roll of a process: who has been enrolled with which lender and has not been
taken off again. The roll is a history. It asks nobody who is alive, and nobody prunes it; it is
told of enrolments, withdrawals and sweeps alone, and of the wrappers that retiring wrappers make.
In every process the rosters agree with the roll on all wrappers that are alive and have not been
released, so a sweep finds exactly those whom the history has left there.
-/

import MemoryLending.Proofs.Enrolment

namespace MemoryLending

/-! ### The roll of a process -/

/-- Who has been enrolled with which lender. -/
abbrev Roll := List (Nat × WrapperId)

namespace Office

/-- The wrappers that have come about from one office to another, with the lenders they work
with. -/
def newcomers (before after : Office) : Roll :=
  (List.range' before.wrappers.size (after.wrappers.size - before.wrappers.size)).filterMap
    fun id => (after.workplace id).map (·, id)

end Office

namespace Errand

/-- Whether an errand takes an entry off the roll. -/
def strikes (entry : Nat × WrapperId) : Errand → Bool
  | withdraw lender id => entry == (lender, id)
  | sweep lender | endGuard lender | unwindGuard lender => entry.1 == lender
  | _ => false

/-- What an errand puts on the roll. An installation enrols a wrapper if all goes well. -/
def enters (office : Office) : Errand → Roll
  | makeWrapper .. => []
  | enroll lender id => [(lender, id)]
  | engage lender party id =>
    match (Action.engage lender party id office).1 with
    | .ok (_, .ok ()) => [(lender, id)]
    | _ => []
  | openSession lender sensor =>
    match (Action.openSession lender sensor office).1 with
    | .ok session => [(lender, session)]
    | .error _ => []
  | errand => office.newcomers (errand.conduct office).2

/-- The roll after an errand. -/
def amend (office : Office) (roll : Roll) (errand : Errand) : Roll :=
  roll.filter (fun entry => !errand.strikes entry) ++ errand.enters office

/-- Only somebody who has a wrapper can hold it once more or enrol it. -/
def Handled (office : Office) : Errand → Prop
  | hold id | enroll _ id | engage _ _ id => office.alive id = true
  | _ => True

instance decidableHandled (office : Office) : (errand : Errand) → Decidable (errand.Handled office)
  | hold id | enroll _ id | engage _ _ id => inferInstanceAs (Decidable (office.alive id = true))
  | makeWrapper .. | letGo _ | retire _ | withdraw .. | makeHost .. | makeSensor ..
  | openSession .. | allocate .. | free .. | grab .. | handBack .. | halt _ | sweep _
  | endGuard _ | unwindGuard _ => isTrue trivial

end Errand

/-- The last holder of a session lets go of it, and nothing else happens. -/
theorem Action.letGo_session {office : Office} {id : WrapperId} {name : String}
    {lender sensor : Nat} {flag : ReleaseFlag}
    (found : office.wrappers[id]? = some ⟨name, lender, .session sensor, flag, 1⟩) :
    letGo id office = (.ok (), (changeWrapper id (fun wrapper =>
      { wrapper with holders := wrapper.holders - 1 }) office).2) := by
  have unheld : unhold id office = (.ok (some ⟨name, lender, .session sensor, flag, 1⟩),
      (changeWrapper id (fun wrapper =>
        { wrapper with holders := wrapper.holders - 1 }) office).2) := by
    unfold unhold
    rw [run_get_bind, found]
    rfl
  show letGoWithin (2 * office.wrappers.size + 1 + 1) id office = _
  rw [letGoWithin_succ, run_bind_of_ok unheld]
  rfl

namespace Office

/-! ### Rosters that agree with a roll -/

theorem mem_newcomers {before after : Office} {lender : Nat} {id : WrapperId} :
    (lender, id) ∈ before.newcomers after ↔
      before.wrappers.size ≤ id ∧ after.workplace id = some lender := by
  unfold newcomers
  rw [List.mem_filterMap]
  constructor
  · rintro ⟨other, within, found⟩
    obtain ⟨_, works, same⟩ := Option.map_eq_some_iff.mp found
    cases same
    exact ⟨(List.mem_range'_1.mp within).1, works⟩
  · rintro ⟨beyond, works⟩
    have newest := size_of_workplace works
    have length := Nat.add_sub_of_le (Nat.le_trans beyond (Nat.le_of_lt newest))
    refine ⟨id, List.mem_range'_1.mpr ⟨beyond, newest.trans_eq length.symm⟩, ?_⟩
    rw [works]
    rfl

/-- The rosters agree with the roll on the wrappers that are alive and have not been released. -/
structure Lists (office : Office) (roll : Roll) : Prop where
  known : ∀ lender, ∀ id ∈ office.entries lender, id < office.wrappers.size
  listed : ∀ entry ∈ roll, entry.2 < office.wrappers.size
  agree : ∀ lender < office.lenders.size, ∀ id, office.alive id = true →
    office.released id = false → (id ∈ office.entries lender ↔ (lender, id) ∈ roll)

section Lists

variable {office before after : Office} {roll : Roll}

theorem Lists.tracks (lists : before.Lists roll) (tracks : before.Tracks after) :
    after.Lists (roll ++ before.newcomers after) where
  known lender id member := by
    rcases tracks.found lender id member with member | ⟨-, works⟩
    · exact Nat.lt_of_lt_of_le (lists.known lender id member) tracks.more
    · exact size_of_workplace works
  listed entry member := by
    rcases List.mem_append.mp member with member | member
    · exact Nat.lt_of_lt_of_le (lists.listed entry member) tracks.more
    · exact size_of_workplace (mem_newcomers.mp member).2
  agree lender inRange id alive unreleased := by
    rw [List.mem_append, mem_newcomers]
    by_cases old : id < before.wrappers.size
    · have young := Nat.not_le_of_lt old
      have held : before.released id = false := Bool.eq_false_iff.mpr fun released => by
        cases unreleased.symm.trans (tracks.released id old released)
      rw [or_iff_left fun new => young new.1, ← lists.agree lender (tracks.size ▸ inRange) id
        (tracks.alive id old alive) held]
      refine ⟨fun member => ?_, tracks.kept lender id old alive unreleased⟩
      exact (tracks.found lender id member).resolve_right fun new => young new.1
    · have absent : (lender, id) ∉ roll := fun member => old (lists.listed _ member)
      rw [or_iff_right absent]
      refine ⟨fun member => ?_, fun new =>
        tracks.entered lender inRange id new.1 alive unreleased new.2⟩
      exact (tracks.found lender id member).resolve_left fun member =>
        old (lists.known lender id member)

theorem newcomers_of_size (size : after.wrappers.size = before.wrappers.size) :
    before.newcomers after = [] := by
  unfold newcomers
  rw [size, Nat.sub_self]
  rfl

/-- Where no wrapper has come about, the roll stays as it is. -/
theorem Lists.of_tracks (lists : before.Lists roll) (tracks : before.Tracks after)
    (size : after.wrappers.size = before.wrappers.size) : after.Lists roll := by
  have tracked := lists.tracks tracks
  rwa [newcomers_of_size size, List.append_nil] at tracked

theorem Lists.of_listing (lists : before.Lists roll) (same : after.listing = before.listing) :
    after.Lists roll :=
  lists.of_tracks (.of_listing same) (congrArg (·.1.size) same)

theorem Lists.makeWrapper (lists : office.Lists roll) (name : String) (lender : Nat)
    (duty : Duty) : (Action.makeWrapper name lender duty office).2.Lists roll := by
  have size : (Action.makeWrapper name lender duty office).2.wrappers.size =
      office.wrappers.size + 1 := Array.size_push ..
  have made := office.getElem?_makeWrapper name lender duty
  refine ⟨fun other id member => ?_, fun entry member => ?_,
    fun other inRange id alive unreleased => ?_⟩
  · exact size ▸ Nat.lt_succ_of_lt (lists.known other id member)
  · exact size ▸ Nat.lt_succ_of_lt (lists.listed entry member)
  · by_cases old : id = office.wrappers.size
    · -- The new wrapper is neither on a roster nor on the roll.
      subst old
      refine iff_of_false (fun member => ?_) fun member => ?_
      · exact Nat.lt_irrefl _ (lists.known other _ member)
      · exact Nat.lt_irrefl _ (lists.listed _ member)
    · refine lists.agree other inRange id ?_ ?_
      · unfold Office.alive at alive ⊢
        rwa [made, if_neg old] at alive
      · unfold Office.released at unreleased ⊢
        rwa [made, if_neg old] at unreleased

theorem Lists.enroll (lists : office.Lists roll) {id : WrapperId} (alive : office.alive id = true)
    (lender : Nat) : (Action.enroll lender id office).2.Lists (roll ++ [(lender, id)]) := by
  have changed := fun other => office.lender_changeRoster lender other fun roster alive =>
    roster.enroll alive id
  have size := size_of_alive alive
  have found : ∀ other, ∀ id' ∈ (Action.enroll lender id office).2.entries other,
      id' ∈ office.entries other ∨ id' = id ∧ other = lender := by
    intro other id' member
    unfold entries Action.enroll at member
    rw [changed] at member
    split at member
    · rename_i both
      exact (Roster.of_mem_enroll member).imp_right fun same => ⟨same, both.1.symm⟩
    · exact Or.inl member
  refine ⟨fun other id' member => ?_, fun entry member => ?_,
    fun other inRange id' alive unreleased => ?_⟩
  · rcases found other id' member with member | ⟨rfl, -⟩
    · exact lists.known other id' member
    · exact size
  · rcases List.mem_append.mp member with member | new
    · exact lists.listed entry member
    · exact List.mem_singleton.mp new ▸ size
  · rw [List.mem_append, List.mem_singleton, Prod.mk.injEq]
    have inRange' : other < office.lenders.size := inRange.trans_eq Array.size_modify
    rw [← lists.agree other inRange' id' alive unreleased]
    refine ⟨fun member => (found other id' member).imp_right And.symm, fun member => ?_⟩
    unfold entries Action.enroll
    rw [changed]
    split
    · exact Roster.mem_enroll_of_alive alive (member.imp_right And.right)
    · rename_i apart
      exact member.resolve_right fun new => apart ⟨new.1.symm, new.1 ▸ inRange'⟩

theorem Lists.withdraw (lists : office.Lists roll) (lender : Nat) (id : WrapperId) :
    (Action.withdraw lender id office).2.Lists
      (roll.filter fun entry => !(entry == (lender, id))) := by
  have changed := fun other => office.lender_changeRoster lender other fun roster alive =>
    roster.withdraw alive id
  refine ⟨fun other id' member => ?_, fun entry member => ?_,
    fun other inRange id' alive unreleased => ?_⟩
  · unfold entries Action.withdraw at member
    rw [changed] at member
    split at member
    · exact lists.known other id' (List.mem_filter.mp (List.mem_filter.mp member).1).1
    · exact lists.known other id' member
  · exact lists.listed entry (List.mem_filter.mp member).1
  · have inRange' : other < office.lenders.size := inRange.trans_eq Array.size_modify
    have agree := lists.agree other inRange' id' alive unreleased
    rw [List.mem_filter, ← agree]
    unfold entries Action.withdraw
    rw [changed]
    by_cases here : lender = other
    · subst here
      rw [if_pos ⟨rfl, inRange'⟩]
      show id' ∈ List.filter (· != id) (List.filter office.alive _) ↔ _
      rw [List.mem_filter, List.mem_filter, and_assoc]
      refine and_congr_right fun _ => ?_
      rw [show ((lender, id') == (lender, id)) = (id' == id) by simp]
      exact and_iff_right alive
    · rw [if_neg fun both => here both.1]
      exact (and_iff_left (by simp [Ne.symm here])).symm

theorem Lists.muster (lists : office.Lists roll) (lender : Nat) :
    (Action.muster lender office).2.Lists (roll.filter fun entry => !(entry.1 == lender)) := by
  obtain ⟨after, mustered, up, empty, others⟩ := Action.mustering lender office
  rw [mustered]
  have known : ∀ other, ∀ id ∈ after.entries other, id ∈ office.entries other :=
    fun other id member => (up.rosters other).subset member
  have size : after.wrappers.size = office.wrappers.size := up.size_wrappers
  refine ⟨fun other id member => ?_, fun entry member => ?_,
    fun other inRange id alive unreleased => ?_⟩
  · exact size ▸ lists.known other id (known other id member)
  · exact size ▸ lists.listed entry (List.mem_filter.mp member).1
  · rw [List.mem_filter]
    by_cases here : other = lender
    · subst here
      refine iff_of_false ?_ fun both => ?_
      · unfold entries
        rw [empty]
        exact List.not_mem_nil
      · simp at both
    · have unchanged : after.entries other = office.entries other := by
        unfold entries
        rw [others other here]
      rw [unchanged, lists.agree other (up.upheld.1 ▸ inRange) id ?_ ?_]
      · exact (and_iff_left (by simp [here])).symm
      · exact alive_of_held up (fun id member => (List.mem_filter.mp member).2) alive
      · exact (up.released id).symm.trans unreleased

/-- What no wrapper and no roster takes part in, after the roll has been amended. -/
theorem Lists.afterwards {between : Office}
    (lists : between.Lists (roll ++ office.newcomers between))
    (same : after.listing = between.listing) : after.Lists (roll ++ office.newcomers after) := by
  have wrappers : after.wrappers = between.wrappers := congrArg (·.1) same
  have none : office.newcomers after = office.newcomers between := by
    unfold newcomers Office.workplace
    rw [wrappers]
  rw [none]
  exact lists.of_listing same

/-! ### Errands and the roll -/

theorem Lists.dismissed (lists : office.Lists roll) (lender : Nat) :
    (Action.sweep lender office).2.Lists
      (roll.filter (fun entry => !(entry.1 == lender)) ++
        office.newcomers (Action.sweep lender office).2) := by
  have listed := lists.muster lender
  obtain ⟨held, mustered, up, -, -⟩ := Action.mustering lender office
  rw [mustered] at listed
  rw [Action.sweep_eq_dismiss, Action.run_bind_of_ok mustered]
  have tracks := retires_tracks.dismiss retires_tracks.retire retires_tracks.letGo lender
    ((office.lender lender).roster.living office.alive)
    ((office.lender lender).roster.count -
      ((office.lender lender).roster.living office.alive).length) held
  have listed' := listed.tracks tracks
  unfold newcomers at listed' ⊢
  rwa [up.size_wrappers] at listed'

theorem listing_endGuard (lender : Nat) :
    (Action.endGuard lender office).2.listing = (Action.sweep lender office).2.listing := by
  unfold Action.endGuard
  rw [Action.run_tryCatch, Action.run_discard]
  rcases Action.sweep lender office with ⟨(_ | _ | _ | _) | _, after⟩ <;> rfl

theorem listing_unwindGuard (lender : Nat) :
    ((Action.unwindGuard lender : Action Unit) office).2.listing =
      (Action.sweep lender office).2.listing := by
  unfold Action.unwindGuard
  rw [Action.run_bind, Action.run_tryCatch, Action.run_discard]
  rcases Action.sweep lender office with ⟨(_ | _ | _ | _) | _, after⟩ <;> rfl

section Engage

variable (manned : office.Manned)

include manned

/-- An installation enrols the wrapper if all goes well, and nobody else. -/
theorem engage_listing (lender : Nat) (party : Party) (id : WrapperId) :
    ∃ between : Office, between.listing = office.listing ∧
      match Action.engage lender party id office with
      | (.ok (_, .ok ()), after) => after = (Action.enroll lender id between).2
      | (_, after) => after = between := by
  have offered := asks_listing.offer party (Action.offering office lender)
  rw [Action.engage_eq]
  have outcome := Action.engaging manned lender (Action.offer party) id
  generalize Action.engageWith lender (Action.offer party) id office = result at outcome
  cases outcome with
  | serving served => exact ⟨office, rfl, rfl⟩
  | taken other served different => exact ⟨office, rfl, rfl⟩
  | refused grants violation after free refused =>
    rw [refused] at offered
    exact ⟨{ after with served := none }, offered, rfl⟩
  | accepted grants after free accepted =>
    rw [accepted] at offered
    refine ⟨(Action.setServing lender { after with sweepsAtExit := true }).2, ?_, rfl⟩
    refine Eq.trans (congrArg (Prod.mk after.wrappers) ?_) offered
    exact @map_modify _ Lender.roster after.lenders lender
      (fun lender => { lender with serving := true }) fun _ => rfl
  | failed fault after free failed =>
    rw [failed] at offered
    exact ⟨after, offered, rfl⟩

theorem Lists.engage (lists : office.Lists roll) {id : WrapperId} (alive : office.alive id = true)
    (lender : Nat) (party : Party) :
    (Action.engage lender party id office).2.Lists
      (roll ++ (Errand.engage lender party id).enters office) := by
  obtain ⟨between, same, came⟩ := engage_listing manned lender party id
  show (Action.engage lender party id office).2.Lists
    (roll ++ match (Action.engage lender party id office).1 with
      | .ok (_, .ok ()) => [(lender, id)]
      | _ => [])
  rcases engaged : Action.engage lender party id office with
    ⟨fault | ⟨grants, violation | ⟨⟩⟩, after⟩ <;> rw [engaged] at came <;> obtain rfl := came
  · exact (List.append_nil roll).symm ▸ lists.of_listing same
  · exact (List.append_nil roll).symm ▸ lists.of_listing same
  · exact (lists.of_listing same).enroll ((alive_of_listing same id).trans alive) lender

theorem Lists.openSession (lists : office.Lists roll) (lender sensor : Nat) :
    (Action.openSession lender sensor office).2.Lists
      (roll ++ (Errand.openSession lender sensor).enters office) := by
  have listed := lists.makeWrapper "" lender (.session sensor)
  have manned' := manned.of_post (routine_post.makeWrapper "" lender (.session sensor) office)
  have found := office.getElem?_makeWrapper "" lender (.session sensor) office.wrappers.size
  rw [if_pos rfl] at found
  have outcome := Action.opening office lender sensor
  show (Action.openSession lender sensor office).2.Lists
    (roll ++ match (Action.openSession lender sensor office).1 with
      | .ok session => [(lender, session)]
      | .error _ => [])
  generalize (Action.makeWrapper "" lender (.session sensor) office).2 = made
    at listed manned' found outcome
  have alive : made.alive office.wrappers.size = true := by
    unfold Office.alive
    rw [found]
    rfl
  obtain ⟨between, same, came⟩ :=
    engage_listing manned' lender (.sensor sensor) office.wrappers.size
  generalize Action.openSession lender sensor office = result at outcome
  cases outcome with
  | opened grants after accepted =>
    rw [accepted] at came
    obtain rfl := came
    exact (listed.of_listing same).enroll ((alive_of_listing same _).trans alive) lender
  | refused grants violation after refused =>
    rw [refused] at came
    obtain rfl := came
    have found' : after.wrappers[office.wrappers.size]? = _ :=
      (congrArg (·.1[office.wrappers.size]?) same).trans found
    have tracks := @tracks_changeWrapper after office.wrappers.size
      (fun wrapper => { wrapper with holders := wrapper.holders - 1 }) (fun _ => rfl)
      (fun wrapper found _ => by cases found.symm.trans found'; rfl) fun _ released => released
    rw [Action.run_bind_of_ok (Action.letGo_session found')]
    exact (List.append_nil roll).symm ▸
      (listed.of_listing same).of_tracks tracks Array.size_modify
  | failed fault after failed =>
    rw [failed] at came
    obtain rfl := came
    exact (List.append_nil roll).symm ▸ listed.of_listing same

end Engage

/-- Every errand leaves the rosters in agreement with the roll. -/
theorem Lists.conduct (manned : office.Manned) (lists : office.Lists roll) {errand : Errand}
    (handled : errand.Handled office) :
    (errand.conduct office).2.Lists (errand.amend office roll) := by
  have all : roll.filter (fun _ => !false) = roll := List.filter_true roll
  have still : office.Tracks (errand.conduct office).2 →
      (errand.conduct office).2.Lists
        (roll.filter (fun _ => !false) ++ office.newcomers (errand.conduct office).2) :=
    fun tracks => all.symm ▸ lists.tracks tracks
  unfold Errand.amend
  cases errand with
  | makeWrapper name lender duty =>
    show Lists _ (roll.filter (fun _ => !false) ++ [])
    rw [all, List.append_nil]
    exact lists.makeWrapper name lender duty
  | hold id =>
    refine still (office.tracks_changeWrapper id (fun _ => rfl) (fun wrapper found _ => ?_)
      fun _ released => released)
    have alive : office.alive id = true := handled
    unfold Office.alive at alive
    rwa [found] at alive
  | letGo id =>
    exact still (retires_tracks.thenPure (retires_tracks.letGo id) office)
  | retire id =>
    exact still (retires_tracks.thenPure (retires_tracks.retire id) office)
  | enroll lender id =>
    show Lists _ (roll.filter (fun _ => !false) ++ [(lender, id)])
    rw [all]
    exact lists.enroll handled lender
  | withdraw lender id =>
    have none : office.newcomers (Action.withdraw lender id office).2 = [] := newcomers_of_size rfl
    show Lists _ (roll.filter (fun entry => !(entry == (lender, id))) ++
      office.newcomers (Action.withdraw lender id office).2)
    rw [none, List.append_nil]
    exact lists.withdraw lender id
  | makeHost result early => exact still (.of_listing rfl)
  | makeSensor frameLength count =>
    refine still (.of_listing ?_)
    exact asks_listing.thenPure
      (asks_listing.discard (asks_listing.makeSensor frameLength count)) office
  | engage lender party id =>
    rw [Errand.conduct_engage]
    show Lists _ (roll.filter (fun _ => !false) ++ _)
    rw [all]
    exact lists.engage manned handled lender party
  | openSession lender sensor =>
    rw [Errand.conduct_openSession]
    show Lists _ (roll.filter (fun _ => !false) ++ _)
    rw [all]
    exact lists.openSession manned lender sensor
  | allocate size hasContext =>
    refine still (.of_listing ?_)
    exact asks_listing.thenPure (asks_listing.answerAllocate size hasContext) office
  | free address context =>
    refine still (.of_listing ?_)
    exact quiet_listing.thenPure (quiet_listing.answerFree address context) office
  | grab sensor sequence =>
    refine still (.of_listing ?_)
    exact asks_listing.thenPure (asks_listing.grab sensor sequence) office
  | handBack sensor frame =>
    refine still (.of_listing ?_)
    exact quiet_listing.thenPure (quiet_listing.handBack sensor frame) office
  | halt sensor =>
    refine still (.of_listing ?_)
    exact quiet_listing.thenPure (quiet_listing.halt sensor) office
  | sweep lender =>
    have silent : ((Errand.sweep lender).conduct office).2 = (Action.sweep lender office).2 :=
      congrArg Prod.snd (Action.run_discard_bind_pure (Action.sweep lender) [] office)
    exact (lists.dismissed lender).afterwards (congrArg listing silent)
  | endGuard lender =>
    have silent : ((Errand.endGuard lender).conduct office).2 = (Action.endGuard lender office).2 :=
      congrArg Prod.snd (Action.run_bind_pure (Action.endGuard lender) (fun _ => []) office)
    exact (lists.dismissed lender).afterwards
      ((congrArg listing silent).trans (listing_endGuard lender))
  | unwindGuard lender =>
    have silent : ((Errand.unwindGuard lender).conduct office).2 =
        ((Action.unwindGuard lender : Action Unit) office).2 :=
      congrArg Prod.snd (Action.run_bind_pure (Action.unwindGuard lender : Action Unit)
        (fun _ => []) office)
    exact (lists.dismissed lender).afterwards
      ((congrArg listing silent).trans (listing_unwindGuard lender))

end Lists

end Office

namespace Process

/-! ### Runs -/

/-- The roll after a task. -/
def amend (process : Process) (roll : Roll) (task : Task) : Roll :=
  if process.ended then roll
  else
    match task with
    | .turn .. => roll
    | .errand errand places =>
      if process.knows errand then errand.amend (process.ready places) roll else roll

/-- The roll after a run. -/
def roll (process : Process) (entries : Roll) : List Task → Roll
  | [] => entries
  | task :: rest => (process.take task).roll (process.amend entries task) rest

/-- Wrappers are held and enrolled by those who have them. -/
def Handled (process : Process) : Task → Prop
  | .turn .. => True
  | .errand errand _ => errand.Handled process.office

instance decidableHandled (process : Process) : (task : Task) → Decidable (process.Handled task)
  | .turn .. => isTrue trivial
  | .errand errand _ => inferInstanceAs (Decidable (errand.Handled process.office))

theorem lists_start (arena : Arena) (policies : List Policy) :
    (start arena policies).office.Lists [] := by
  have idle : ∀ lender, (start arena policies).office.entries lender = [] := by
    intro lender
    obtain ⟨policy, same⟩ := lender_start arena policies lender
    unfold Office.entries
    rw [same]
    rfl
  refine ⟨fun lender id member => ?_, nofun, fun lender _ id _ _ => ?_⟩
  · rw [idle] at member
    cases member
  · rw [idle]
    exact iff_of_false List.not_mem_nil List.not_mem_nil

variable {process : Process} {entries : Roll}

theorem lists_take (manned : process.office.Manned) (lists : process.office.Lists entries)
    {task : Task} (handled : process.Handled task) :
    (process.take task).office.Lists (process.amend entries task) := by
  unfold Process.take amend
  split
  · exact lists
  cases task with
  | turn lender turn =>
    dsimp only
    unfold takeTurn
    split
    · exact lists.of_listing (process.office.listing_withDesk lender
        (((process.trade lender).ready turn.place).standing_perform turn.deed))
    · exact lists
  | errand errand places =>
    dsimp only
    have ready : (process.ready places).Lists entries := lists.of_listing rfl
    have same : (process.ready places).post = process.office.post := rfl
    have manned' := manned.of_post same
    have handled' : errand.Handled (process.ready places) := by
      cases errand <;> exact handled
    have conducted := ready.conduct manned' handled'
    unfold doErrand
    split
    · rcases done : errand.conduct (process.ready places) with ⟨fault | tokens, after⟩ <;>
        rw [done] at conducted <;> exact conducted
    · exact lists

theorem going_of_run {tasks : List Task} (going : (process.run tasks).ended = false) :
    process.ended = false := by
  induction tasks generalizing process with
  | nil => exact going
  | cons task rest inductionHypothesis => exact going_of_take (inductionHypothesis going)

/-- In every process that goes on, the rosters agree with the roll. -/
theorem lists_run (manned : process.office.Manned) (lists : process.office.Lists entries)
    {tasks : List Task} (handled : Throughout take Handled process tasks)
    (going : (process.run tasks).ended = false) :
    (process.run tasks).office.Lists (process.roll entries tasks) := by
  induction tasks generalizing process entries with
  | nil => exact lists
  | cons task rest inductionHypothesis =>
    obtain ⟨handled, later⟩ := handled
    have steady := steady_take manned task (going_of_run going)
    exact inductionHypothesis steady.manned (lists_take manned lists handled) later going

end Process

end MemoryLending
