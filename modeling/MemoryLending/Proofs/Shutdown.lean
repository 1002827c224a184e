/-
This file says what a sweep does in every process over a heap. Whatever has been enrolled and
withdrawn before, however often, and whoever has died meanwhile or been retired already: if the
wrappers that are left look after themselves and own different loans, then each of them is retired,
once, and nobody else is touched. What is left of the book is what none of them owned, and that
alone decides whether the sweep is a success. A second sweep finds nothing to do and comes to the
same end.
-/

import Mathlib.Data.List.Dedup
import MemoryLending.Proofs.Roll

namespace MemoryLending

/-- A sweep is a success if no loan is left. -/
def SweepReport.settle (report : SweepReport) (left : List Loan) : Except Fault SweepReport :=
  if left = [] then .ok report else .error (.refused (.outstanding left.length))

theorem SweepReport.settle_perm (report : SweepReport) {first second : List Loan}
    (same : first.Perm second) : report.settle first = report.settle second := by
  unfold settle
  rw [same.length_eq]
  refine if_congr ⟨fun clear => ?_, fun clear => ?_⟩ rfl rfl
  · exact (clear ▸ same).nil_eq.symm
  · exact (clear ▸ same).eq_nil

namespace Office

/-! ### The wrappers that wait for a sweep -/

/-- The wrappers enrolled with a lender that are alive and have not been released, each once. -/
def waiting (office : Office) (roll : Roll) (lender : Nat) : List WrapperId :=
  ((roll.filter fun entry =>
    entry.1 == lender && office.alive entry.2 && !office.released entry.2).map Prod.snd).dedup

/-- The loans of a lender that none of the wrappers owns. -/
def leftover (office : Office) (lender : Nat) (ids : List WrapperId) : List Loan :=
  (office.lender lender).loans.toList.filter fun loan =>
    ids.all fun id => office.owned id != some (lender, loan.base, loan.token)

theorem mem_waiting {office : Office} {roll : Roll} {lender : Nat} {id : WrapperId} :
    id ∈ office.waiting roll lender ↔
      (lender, id) ∈ roll ∧ office.alive id = true ∧ office.released id = false := by
  unfold waiting
  rw [List.mem_dedup, List.mem_map]
  constructor
  · rintro ⟨⟨other, _⟩, member, rfl⟩
    obtain ⟨listed, fits⟩ := List.mem_filter.mp member
    simp only [Bool.and_eq_true, beq_iff_eq, Bool.not_eq_true'] at fits
    obtain ⟨⟨rfl, alive⟩, unreleased⟩ := fits
    exact ⟨listed, alive, unreleased⟩
  · rintro ⟨listed, alive, unreleased⟩
    exact ⟨(lender, id), List.mem_filter.mpr ⟨listed, by simp [alive, unreleased]⟩, rfl⟩

theorem mem_leftover {office : Office} {lender : Nat} {ids : List WrapperId} {loan : Loan} :
    loan ∈ office.leftover lender ids ↔ loan ∈ (office.lender lender).loans.toList ∧
      ∀ id ∈ ids, office.owned id ≠ some (lender, loan.base, loan.token) := by
  unfold leftover
  rw [List.mem_filter, List.all_eq_true]
  exact and_congr_right fun _ => forall₂_congr fun _ _ => bne_iff_ne

/-- What a sweep comes to. -/
structure Sweeping (office : Office) (roll : Roll) (lender : Nat) : Prop where
  /-- The wrappers that the sweep tells to retire. -/
  calls : Action.retireAll (office.living lender) (Action.muster lender office).2 =
    ((office.told lender).forM Action.retire >>= fun _ => pure (office.told lender).length)
      (Action.muster lender office).2
  /-- They are those that were waiting, and each of them is told once. -/
  once : (office.told lender).Perm (office.waiting roll lender)
  released : ∀ id, (lender, id) ∈ roll → office.alive id = true →
    (Action.sweep lender office).2.released id = true
  /-- Nobody else is touched. -/
  spared : ∀ id ∉ office.waiting roll lender,
    (Action.sweep lender office).2.wrappers[id]? = office.wrappers[id]?
  empty : (Action.sweep lender office).2.livingCount lender = 0
  /-- What they owned is given back, and nothing else. -/
  loans : ∀ index loan, loan ∈ ((Action.sweep lender office).2.lender index).loans.toList ↔
    loan ∈ (office.lender index).loans.toList ∧
      ∀ id ∈ office.waiting roll lender, office.owned id ≠ some (index, loan.base, loan.token)
  result : (Action.sweep lender office).1 =
    SweepReport.settle ⟨(office.waiting roll lender).length, office.dead lender⟩
      (office.leftover lender (office.waiting roll lender))
  /-- A second sweep finds nothing to do. -/
  again : (Action.sweep lender (Action.sweep lender office).2).1 =
    SweepReport.settle ⟨0, 0⟩ (office.leftover lender (office.waiting roll lender))

section Sweep

variable {office last : Office} {lender : Nat} {rented : Nat → List Block}
  (orderly : office.Orderly rented) (inRange : lender < office.lenders.size)
  (retired : Retired lender office last)

include orderly inRange retired

/-- What is left of the book is what no wrapper owned. -/
theorem leftover_perm :
    (last.lender lender).loans.toList.Perm (office.leftover lender (office.living lender)) := by
  have orderly' := retired.working.upheld.2 rented orderly
  have inRange' := inRange.trans_eq retired.working.upheld.1.symm
  have nodup := (orderly.sound inRange).ordered.nodup_bases.of_map _
  have nodup' := (orderly'.sound inRange').ordered.nodup_bases.of_map _
  refine (List.perm_ext_iff_of_nodup nodup' (nodup.filter _)).mpr fun loan => ?_
  rw [retired.working.loans, ← leftover, mem_leftover]
  exact and_congr_right fun _ => by simp only [not_exists, not_and, ne_eq]

theorem sweep_outcome :
    ∃ journal, Action.sweep lender office =
      (SweepReport.settle ⟨(office.told lender).length, office.dead lender⟩
        (office.leftover lender (office.living lender)), { last with journal }) := by
  have same := leftover_perm orderly inRange retired
  rw [← SweepReport.settle_perm _ same]
  have outcome := Action.swept retired.done
  generalize Action.sweep lender office = result at outcome
  unfold SweepReport.settle
  cases outcome with
  | cleared journal clear => exact ⟨journal, by rw [if_pos clear]⟩
  | outstanding journal left => exact ⟨journal, by rw [if_neg left]; rfl⟩
  | beyond left many =>
    have orderly' := retired.working.upheld.2 rented orderly
    have inRange' := inRange.trans_eq retired.working.upheld.1.symm
    cases many.symm.trans (LoanBook.bytes?_eq (orderly'.sound inRange'))

end Sweep

theorem living_of_empty {office : Office} {lender : Nat} (empty : office.entries lender = []) :
    office.living lender = [] := by
  unfold entries at empty
  unfold Office.living Roster.living
  rw [empty]
  rfl

/-- A sweep that finds nobody on the roster tells nobody to retire. -/
theorem told_of_empty {office : Office} {lender : Nat} (empty : office.entries lender = []) :
    office.told lender = [] := by
  unfold Office.told
  rw [living_of_empty empty]
  rfl

/-- A sweep that finds nobody on the roster looks at the book. -/
theorem sweep_of_empty {office : Office} {lender : Nat} {rented : Nat → List Block}
    (orderly : office.Orderly rented) (inRange : lender < office.lenders.size)
    (empty : office.entries lender = []) :
    (Action.sweep lender office).1 =
      SweepReport.settle ⟨0, 0⟩ (office.lender lender).loans.toList := by
  have living := living_of_empty empty
  have told := told_of_empty empty
  have dead : office.dead lender = 0 := by
    unfold entries at empty
    unfold Office.dead
    rw [empty]
    rfl
  have all : office.leftover lender [] = (office.lender lender).loans.toList :=
    List.filter_true _
  obtain ⟨last, retired⟩ := @retired office rented orderly lender (by rw [living]; exact nofun)
    (by rw [living]; exact nofun)
  obtain ⟨journal, swept⟩ := sweep_outcome orderly inRange retired
  rw [swept, told, dead, living, all]
  rfl

section Waiting

variable {office : Office} {roll : Roll} {lender : Nat} (lists : office.Lists roll)
  (inRange : lender < office.lenders.size)

include lists inRange

/-- A sweep finds those on the roster who are waiting by the roll. -/
theorem waiting_of_living {id : WrapperId} :
    id ∈ office.living lender ∧ office.released id = false ↔ id ∈ office.waiting roll lender := by
  rw [mem_waiting]
  constructor
  · rintro ⟨member, unreleased⟩
    obtain ⟨entered, alive⟩ := List.mem_filter.mp member
    exact ⟨(lists.agree lender inRange id alive unreleased).mp entered, alive, unreleased⟩
  · rintro ⟨listed, alive, unreleased⟩
    have entered := (lists.agree lender inRange id alive unreleased).mpr listed
    exact ⟨List.mem_filter.mpr ⟨entered, alive⟩, unreleased⟩

/-- Nobody owns anything but those who are waiting. -/
theorem owner_of_living {owned : Nat × Nat × Token} :
    (∃ id ∈ office.living lender, office.owned id = some owned) ↔
      ∃ id ∈ office.waiting roll lender, office.owned id = some owned := by
  constructor
  · rintro ⟨id, member, owns⟩
    have unreleased : office.released id = false := Bool.eq_false_iff.mpr fun released => by
      cases owns.symm.trans (owned_of_released released)
    exact ⟨id, (waiting_of_living lists inRange).mp ⟨member, unreleased⟩, owns⟩
  · rintro ⟨id, member, owns⟩
    exact ⟨id, ((waiting_of_living lists inRange).mpr member).1, owns⟩

theorem leftover_of_living :
    office.leftover lender (office.living lender) =
      office.leftover lender (office.waiting roll lender) := by
  refine List.filter_congr fun loan _ => Bool.eq_iff_iff.mpr ?_
  have owner := @owner_of_living office roll lender lists inRange (lender, loan.base, loan.token)
  simp only [List.all_eq_true, bne_iff_ne, ne_eq]
  exact ⟨fun none id member owns => by
      obtain ⟨other, member', owns'⟩ := owner.mpr ⟨id, member, owns⟩
      exact none other member' owns',
    fun none id member owns => by
      obtain ⟨other, member', owns'⟩ := owner.mp ⟨id, member, owns⟩
      exact none other member' owns'⟩

theorem sweeping {rented : Nat → List Block} (orderly : office.Orderly rented)
    (proper : ∀ id ∈ office.waiting roll lender, office.Proper id)
    (apart : office.Apart (office.waiting roll lender)) : office.Sweeping roll lender := by
  have waits : ∀ {id}, id ∈ office.living lender ∧ office.released id = false ↔
      id ∈ office.waiting roll lender := waiting_of_living lists inRange
  have proper' : ∀ id ∈ office.living lender, office.Proper id := by
    intro id member wrapper found held
    have unreleased := (released_of_found found).trans held
    exact proper id (waits.mp ⟨member, unreleased⟩) wrapper found held
  have apart' : office.Apart (office.living lender) := by
    have unreleased : ∀ {id}, office.owned id ≠ none → office.released id = false := fun owns =>
      Bool.eq_false_iff.mpr fun released => owns (owned_of_released released)
    intro first member second member' owns same
    exact apart first (waits.mp ⟨member, unreleased owns⟩) second
      (waits.mp ⟨member', unreleased (same.symm.trans_ne owns)⟩) owns same
  obtain ⟨last, retired⟩ := retired orderly proper' apart'
  have once : (office.told lender).Perm (office.waiting roll lender) :=
    (List.perm_ext_iff_of_nodup retired.once (List.nodup_dedup _)).mpr fun id =>
      (retired.fresh id).trans waits
  have left := leftover_perm orderly inRange retired
  obtain ⟨journal, swept⟩ := sweep_outcome orderly inRange retired
  rw [leftover_of_living lists inRange] at left swept
  rw [once.length_eq] at swept
  refine ⟨Action.retireAll_eq _ _, once, fun id listed alive => ?_, fun id absent => ?_, ?_,
    fun index loan => ?_, ?_, ?_⟩ <;> rw [swept]
  · show last.released id = true
    by_cases released : office.released id = true
    · exact retired.working.released id released
    · have unreleased := Bool.eq_false_of_not_eq_true released
      exact retired.released id (waits.mpr (mem_waiting.mpr ⟨listed, alive, unreleased⟩)).1
  · exact retired.working.others id (mt once.mem_iff.mp absent)
  · show (List.filter _ (last.lender lender).roster.entries).length = 0
    rw [retired.empty]
    rfl
  · have owner := @owner_of_living office roll lender lists inRange (index, loan.base, loan.token)
    show loan ∈ (last.lender index).loans.toList ↔ _
    rw [retired.working.loans, owner]
    simp only [not_exists, not_and, ne_eq]
  · have journaled : last.Upholds { last with journal } := ⟨rfl, fun _ orderly =>
      orderly.beside rfl (Nat.le_refl _) fun _ _ => ⟨_, _, rfl⟩⟩
    have upheld := routine_upholds.trans retired.working.upheld journaled
    have again := sweep_of_empty (upheld.2 rented orderly) (inRange.trans_eq upheld.1.symm)
      (show Office.entries { last with journal } lender = [] from retired.empty)
    exact again.trans (SweepReport.settle_perm _ left)

end Waiting

end Office

namespace Process

/-- In every process that goes on over a heap, a sweep retires the wrappers that have been enrolled
and are left, if they look after themselves and own different loans. -/
theorem sweeping_run (arena : Arena) (policies : List Policy) (tasks : List Task)
    (houses : Throughout take Houses (start arena policies) tasks)
    (handled : Throughout take Handled (start arena policies) tasks)
    (going : ((start arena policies).run tasks).ended = false) (lender : Nat)
    (inRange : lender < ((start arena policies).run tasks).office.lenders.size)
    (proper : ∀ id ∈ ((start arena policies).run tasks).office.waiting
      ((start arena policies).roll [] tasks) lender,
        ((start arena policies).run tasks).office.Proper id)
    (apart : ((start arena policies).run tasks).office.Apart
      (((start arena policies).run tasks).office.waiting
        ((start arena policies).roll [] tasks) lender)) :
    ((start arena policies).run tasks).office.Sweeping
      ((start arena policies).roll [] tasks) lender := by
  have lists := lists_run (manned_start arena policies) (lists_start arena policies) handled going
  have running := running_run arena policies houses going
  exact Office.sweeping lists inRange running.inOrder.orderly proper apart

/-- The first lender's roster has a frame twice, a wrapper that is gone and one that has been
retired; one has withdrawn. The second lender has lent twice, and a wrapper owns one of the two. -/
theorem sweeping_run_left :
    let tasks : List Task := [.turn 0 ⟨.lend 64, 4096⟩, .turn 1 ⟨.lend 16, 8192⟩,
      .turn 1 ⟨.lend 32, 12288⟩, .errand (.makeWrapper "frame" 0 (.loan 4096 ⟨1⟩)) [],
      .errand (.makeWrapper "gone" 0 .plain) [], .errand (.makeWrapper "done" 0 .plain) [],
      .errand (.makeWrapper "out" 0 .plain) [],
      .errand (.makeWrapper "image" 1 (.loan 8192 ⟨1⟩)) [], .errand (.enroll 0 0) [],
      .errand (.enroll 0 3) [], .errand (.enroll 0 1) [], .errand (.enroll 0 2) [],
      .errand (.enroll 0 0) [], .errand (.enroll 1 4) [], .errand (.withdraw 0 3) [],
      .errand (.retire 2) [], .errand (.letGo 1) []]
    let start := start (Arena.startingAt 65536 16 16) [Policy.standard, Policy.standard]
    let office := (start.run tasks).office
    Throughout take Houses start tasks ∧ Throughout take Handled start tasks ∧
      (start.run tasks).ended = false ∧ office.entries 0 = [0, 1, 2, 0] ∧
        (Action.sweep 0 office).1 = .ok ⟨1, 1⟩ ∧
          (Action.sweep 0 (Action.sweep 0 office).2).1 = .ok ⟨0, 0⟩ ∧
            (Action.sweep 1 office).1 = .error (.refused (.outstanding 1)) := by
  intro tasks start office
  have houses : Throughout take Houses start tasks := by decide +kernel
  have handled : Throughout take Handled start tasks := by decide +kernel
  have going : (start.run tasks).ended = false := by decide +kernel
  have single : ∀ id, office.Apart [id] := fun id first member second member' _ _ =>
    (List.mem_singleton.mp member).trans (List.mem_singleton.mp member').symm
  have first : office.waiting (start.roll [] tasks) 0 = [0] := by decide +kernel
  have second : office.waiting (start.roll [] tasks) 1 = [4] := by decide +kernel
  have frame : office.Proper 0 := by
    have here : office.wrappers[0]? =
      some ⟨"frame", 0, .loan 4096 ⟨1⟩, ReleaseFlag.held, 1⟩ := by decide +kernel
    intro wrapper found held
    cases here.symm.trans found
    show office.Live 0 4096 ⟨1⟩
    decide +kernel
  have image : office.Proper 4 := by
    have here : office.wrappers[4]? =
      some ⟨"image", 1, .loan 8192 ⟨1⟩, ReleaseFlag.held, 1⟩ := by decide +kernel
    intro wrapper found held
    cases here.symm.trans found
    show office.Live 1 8192 ⟨1⟩
    decide +kernel
  have sweeps : office.Sweeping (start.roll [] tasks) 0 := by
    refine sweeping_run _ _ tasks houses handled going 0 (by decide +kernel) ?_ ?_
    · exact fun id member => List.mem_singleton.mp (first ▸ member) ▸ frame
    · exact first.symm ▸ single 0
  have sweeps' : office.Sweeping (start.roll [] tasks) 1 := by
    refine sweeping_run _ _ tasks houses handled going 1 (by decide +kernel) ?_ ?_
    · exact fun id member => List.mem_singleton.mp (second ▸ member) ▸ image
    · exact second.symm ▸ single 4
  have clear : office.leftover 0 [0] = [] := by decide +kernel
  have left : (office.leftover 1 [4]).length = 1 := by decide +kernel
  have dead : office.dead 0 = 1 := by decide +kernel
  refine ⟨houses, handled, going, by decide +kernel, ?_, ?_, ?_⟩
  · rw [sweeps.result, first, clear, dead]
    rfl
  · rw [sweeps.again, first, clear]
    rfl
  · rw [sweeps'.result, second]
    unfold SweepReport.settle
    rw [left, if_neg fun clear => by rw [clear] at left; cases left]

/-- One wrapper gives its loan back and stays on the roster, the other one withdraws first. -/
example :
    let stays : Duty := .chores [.returnLoan 0 4096 ⟨1⟩]
    let leaves : Duty := .chores [.withdraw 0, .returnLoan 0 8192 ⟨2⟩]
    let tasks : List Task := [.turn 0 ⟨.lend 64, 4096⟩, .turn 0 ⟨.lend 16, 8192⟩,
      .errand (.makeWrapper "stays" 0 stays) [], .errand (.makeWrapper "leaves" 0 leaves) [],
      .errand (.enroll 0 0) [], .errand (.enroll 0 1) []]
    let office := ((start (Arena.startingAt 65536 16 16) [Policy.standard]).run tasks).office
    (Action.retire 0 office).2.entries 0 = [0, 1] ∧ (Action.retire 1 office).2.entries 0 = [0] ∧
      (Action.sweep 0 office).1 = .ok ⟨2, 0⟩ := by
  decide +kernel

end Process

end MemoryLending
