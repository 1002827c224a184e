/-
This file says where blocks are and what a move can do about it. A block is kept in the reserve,
rented by a caller, pinned by a loan or by views, or backs a replica. A draw brings a kept block
or a fresh one into hands, an entry passes the drawn block on, and every other shift takes
nothing but blocks out of places: what leaves its last holder there is what the reserve sees.
-/

import MemoryLending.Proofs.Moves

namespace MemoryLending

/-! ### Places -/

/-- Where a block can be. -/
inductive Place where
  /-- In the reserve. -/
  | kept
  /-- In the hands of a caller. -/
  | rented
  /-- Held by a loan, by views, or by both. -/
  | pinned
  /-- The storage of a replica that an entry, a handle or a lease holds. -/
  | backing
  deriving DecidableEq, Repr

/-- Whether a loan or a view holds a block. -/
def Lender.Pins (lender : Lender) (block : Block) : Prop :=
  (∃ loan ∈ lender.loans.toList, loan.block = block) ∨ ∃ view ∈ lender.views, view.block = block

namespace Trade

/-- Whether a block is in a place. -/
def Stores (trade : Trade) : Place → Block → Prop
  | .kept, block => block ∈ trade.kept
  | .rented, block => block ∈ trade.rented
  | .pinned, block => trade.desk.lender.Pins block
  | .backing, block => ∃ replica, trade.replicas.Has replica ∧ replica.storage = block

/-- Whether a block is anywhere. -/
def Holds (trade : Trade) (block : Block) : Prop := ∃ place, trade.Stores place block

/-- Whether a view is open, or a loan of some bytes lets it be opened. -/
def Looks (trade : Trade) (view : View) : Prop :=
  view ∈ trade.views ∨ ∃ loan ∈ trade.loans, loan.length ≠ 0 ∧ loan.block = view.block

end Trade

theorem Trade.not_holds_opened (policy : Policy) (arena : Arena) (block : Block) :
    ¬(opened policy arena).Holds block := by
  rintro ⟨_ | _ | _ | _, stored⟩
  · cases stored
  · cases stored
  · rcases stored with ⟨_, member, -⟩ | ⟨_, member, -⟩ <;> cases member
  · obtain ⟨_, ⟨_, member, -⟩ | member | member, -⟩ := stored <;> cases member

/-! ### Traffic and the kept blocks -/

/-- The blocks that traffic brings back to a reserve. -/
def Traffic.restored : List Traffic → List Block
  | [] => []
  | .restore block :: rest => block :: restored rest
  | _ :: rest => restored rest

theorem Traffic.restored_append (first second : List Traffic) :
    restored (first ++ second) = restored first ++ restored second := by
  induction first with
  | nil => rfl
  | cons action rest inductionHypothesis =>
    cases action with
    | restore block =>
      show block :: restored (rest ++ second) = _
      rw [inductionHypothesis]
      rfl
    | request length => exact inductionHypothesis
    | clear => exact inductionHypothesis

theorem Traffic.restored_of_requests {traffic : List Traffic} {length : Nat}
    (requests : ∀ action ∈ traffic, action = .request length) : restored traffic = [] := by
  induction traffic with
  | nil => rfl
  | cons action rest inductionHypothesis =>
    obtain rfl := requests action List.mem_cons_self
    exact inductionHypothesis fun other member => requests other (List.mem_cons_of_mem _ member)

theorem Traffic.restored_retirement (block : Block) :
    restored block.retirement = if block.pooled then [block] else [] := by
  unfold Block.retirement
  split <;> rfl

/-- What has lost a holder comes back if it is pooled, and nothing else does. -/
theorem Traffic.restored_of_lost {held : Bool} {block other : Block}
    (member : other ∈ restored (if held then [] else block.retirement)) :
    other = block ∧ other.pooled = true := by
  split at member
  · cases member
  · rw [restored_retirement] at member
    split at member
    · rename_i pooled
      obtain rfl := List.mem_singleton.mp member
      exact ⟨rfl, pooled⟩
    · cases member

/-- Traffic leaves no block in a reserve that it has neither found there nor brought back. -/
theorem Reserve.kept_passAll_sublist (reserve : Reserve) (traffic : List Traffic) :
    (reserve.passAll traffic).kept.Sublist (reserve.kept ++ Traffic.restored traffic) := by
  induction traffic generalizing reserve with
  | nil => exact (List.append_nil reserve.kept).symm ▸ List.Sublist.refl _
  | cons action rest inductionHypothesis =>
    refine (inductionHypothesis (reserve.pass action)).trans ?_
    cases action with
    | restore block =>
      have passed := (reserve.kept_restore_sublist block).append_right (Traffic.restored rest)
      rwa [List.append_assoc] at passed
    | request length => exact (reserve.kept_request_sublist length).append_right _
    | clear => exact List.sublist_append_right _ _

/-- A reserve keeps no block without bytes. -/
theorem Reserve.capacity_of_kept_passAll {reserve : Reserve}
    (solid : ∀ block ∈ reserve.kept, block.capacity ≠ 0) (traffic : List Traffic) :
    ∀ block ∈ (reserve.passAll traffic).kept, block.capacity ≠ 0 := by
  induction traffic generalizing reserve with
  | nil => exact solid
  | cons action rest inductionHypothesis =>
    refine inductionHypothesis fun block member => ?_
    cases action with
    | restore restored =>
      by_cases empty : restored.capacity = 0
      · exact solid block (reserve.restore_of_empty empty ▸ member)
      · rcases List.mem_append.mp ((reserve.kept_restore_sublist restored).subset member) with
          kept | last
        · exact solid block kept
        · exact List.mem_singleton.mp last ▸ empty
    | request length => exact solid block ((reserve.kept_request_sublist length).subset member)
    | clear => cases member

/-! ### Moves that only take -/

/-- No place has got a block, no book and no table an entry, and what came back to the reserve
has left a holder. -/
structure Less (before : Trade) (traffic : List Traffic) (after : Trade) : Prop where
  issued : before.issued ≤ after.issued
  reserve : after.desk.lender.reserve = before.desk.lender.reserve
  rented : after.rented.Sublist before.rented
  loans : after.loans.Sublist before.loans
  views : ∀ view ∈ after.views, before.Looks view
  has : ∀ replica, after.replicas.Has replica → before.replicas.Has replica
  addresses : (after.replicas.entries.map (·.replica.address)).Sublist
    (before.replicas.entries.map (·.replica.address))
  stores : ∀ place block, after.Stores place block → before.Stores place block
  restored : ∀ block ∈ Traffic.restored traffic, before.Stores .rented block ∨
    block.pooled = true ∧ (before.Stores .pinned block ∨ before.Stores .backing block)

namespace Shift

variable {turn : Turn} {drawn : Option Block} {trade after : Trade} {traffic : List Traffic}

theorem less_of (issued : trade.issued ≤ after.issued)
    (reserve : after.desk.lender.reserve = trade.desk.lender.reserve)
    (rented : after.rented.Sublist trade.rented) (loans : after.loans.Sublist trade.loans)
    (views : ∀ view ∈ after.views, trade.Looks view)
    (has : ∀ replica, after.replicas.Has replica → trade.replicas.Has replica)
    (addresses : (after.replicas.entries.map (·.replica.address)).Sublist
      (trade.replicas.entries.map (·.replica.address)))
    (restored : ∀ block ∈ Traffic.restored traffic, trade.Stores .rented block ∨
      block.pooled = true ∧ (trade.Stores .pinned block ∨ trade.Stores .backing block)) :
    Less trade traffic after := by
  refine ⟨issued, reserve, rented, loans, views, has, addresses, fun place block stored => ?_,
    restored⟩
  cases place with
  | kept =>
    show block ∈ trade.desk.lender.reserve.kept
    rw [← reserve]
    exact stored
  | rented => exact rented.subset stored
  | pinned =>
    rcases stored with ⟨loan, member, rfl⟩ | ⟨view, member, rfl⟩
    · exact Or.inl ⟨loan, loans.subset member, rfl⟩
    · rcases views view member with older | ⟨loan, lent, -, same⟩
      · exact Or.inr ⟨view, older, rfl⟩
      · exact Or.inl ⟨loan, lent, same⟩
  | backing =>
    obtain ⟨replica, had, rfl⟩ := stored
    exact ⟨replica, has replica had, rfl⟩

/-- A table that only loses holders, with the storage of a replica that lost one. -/
theorem less_of_table {table : ReplicaTable} {replica : Replica}
    (had : trade.replicas.Has replica)
    (has : ∀ other, table.Has other → trade.replicas.Has other)
    (addresses : (table.entries.map (·.replica.address)).Sublist
      (trade.replicas.entries.map (·.replica.address)))
    (restored : ∀ block ∈ Traffic.restored traffic,
      block = replica.storage ∧ block.pooled = true) :
    Less trade traffic (trade.withDesk (trade.desk.withReplicas table)) := by
  refine less_of (Nat.le_refl _) rfl (List.Sublist.refl _) (List.Sublist.refl _)
    (fun _ => Or.inl) has addresses fun block member => ?_
  obtain ⟨rfl, pooled⟩ := restored block member
  exact Or.inr ⟨pooled, Or.inr ⟨replica, had, rfl⟩⟩

/-- A desk whose holders are the same. -/
theorem less_of_same {desk : Desk} (issued : trade.issued ≤ desk.arena.identities)
    (reserve : desk.lender.reserve = trade.desk.lender.reserve)
    (loans : desk.lender.loans = trade.desk.lender.loans)
    (views : desk.lender.views = trade.views)
    (replicas : desk.lender.replicas = trade.replicas)
    (restored : Traffic.restored traffic = []) :
    Less trade traffic (trade.withDesk desk) := by
  refine less_of issued reserve (List.Sublist.refl _) ?_ (fun view member => ?_) ?_ ?_ ?_
  · show desk.lender.loans.toList.Sublist trade.desk.lender.loans.toList
    rw [loans]
  · exact Or.inl (views ▸ member)
  · exact fun replica had => replicas ▸ had
  · exact replicas ▸ List.Sublist.refl _
  · intro block member
    rw [restored] at member
    cases member

/-- A trade with fewer rented blocks. -/
theorem less_of_rented {rented : List Block} (fewer : rented.Sublist trade.rented)
    (restored : ∀ block ∈ Traffic.restored traffic, block ∈ trade.rented) :
    Less trade traffic { trade with rented } :=
  less_of (Nat.le_refl _) rfl fewer (List.Sublist.refl _)
    (fun _ => Or.inl) (fun _ had => had) (List.Sublist.refl _)
    fun block member => Or.inl (restored block member)

/-- A desk whose loans are fewer and whose views look at what was pinned. -/
theorem less_of_pinned (loans : LoanBook) (views : List View) {block : Block}
    (fewer : loans.toList.Sublist trade.loans) (pinned : trade.Stores .pinned block)
    (looking : ∀ view ∈ views, trade.Looks view)
    (restored : ∀ other ∈ Traffic.restored traffic, other = block ∧ other.pooled = true) :
    Less trade traffic (trade.withDesk ((trade.desk.withLoans loans).withViews views)) := by
  refine less_of (Nat.le_refl _) rfl (List.Sublist.refl _) fewer looking (fun _ had => had)
    (List.Sublist.refl _) fun other member => ?_
  obtain ⟨rfl, pooled⟩ := restored other member
  exact Or.inr ⟨pooled, Or.inl pinned⟩

/-- A shift passes the drawn block on, or it only takes. -/
theorem less_or_entry (shift : Shift turn drawn trade traffic after) :
    Less trade traffic after ∨ traffic = [] ∧ Entry turn drawn trade after := by
  have viewed : ∀ view ∈ trade.views, trade.Looks view := fun _ => Or.inl
  cases shift with
  | gain after entry => exact Or.inr ⟨rfl, entry⟩
  | rest => exact Or.inl (less_of_same (Nat.le_refl _) rfl rfl rfl rfl rfl)
  | burn => exact Or.inl (less_of_same (Nat.le_refl _) rfl rfl rfl rfl rfl)
  | issue => exact Or.inl (less_of_same (Nat.le_succ _) rfl rfl rfl rfl rfl)
  | clear => exact Or.inl (@less_of_same trade _ trade.desk (Nat.le_refl _) rfl rfl rfl rfl rfl)
  | handIn block held =>
    refine Or.inl (less_of_rented List.erase_sublist fun other member => ?_)
    exact List.mem_singleton.mp member ▸ held
  | discard block =>
    exact Or.inl (less_of_rented List.erase_sublist fun _ member => by cases member)
  | strike base loan found =>
    have member : loan ∈ trade.loans := trade.desk.lender.loans.mem_of_at? found
    exact Or.inl (less_of_pinned (trade.desk.lender.loans.strike base) trade.views
      (trade.desk.lender.loans.strike_sublist base) (Or.inl ⟨loan, member, rfl⟩) viewed
      fun other => Traffic.restored_of_lost)
  | look loan view member positive same =>
    have pinned : trade.Stores .pinned view.block := Or.inl ⟨loan, member, same.symm⟩
    refine Or.inl (less_of_pinned trade.desk.lender.loans (view :: trade.views)
      (List.Sublist.refl _) pinned (fun other member' => ?_) fun _ member' => by cases member')
    rcases List.mem_cons.mp member' with rfl | older
    · exact Or.inr ⟨loan, member, positive, same.symm⟩
    · exact Or.inl older
  | unlook view opened =>
    refine Or.inl (less_of_pinned trade.desk.lender.loans (trade.views.erase view)
      (List.Sublist.refl _) (Or.inr ⟨view, opened, rfl⟩) (fun other member => ?_)
      fun other => Traffic.restored_of_lost)
    exact Or.inl (List.mem_of_mem_erase member)
  | recount address references =>
    refine Or.inl (less_of (Nat.le_refl _) rfl (List.Sublist.refl _) (List.Sublist.refl _) viewed
      (fun other had => ReplicaTable.has_recount.mp had) ?_ fun _ member => by cases member)
    exact ReplicaTable.addresses_recount trade.replicas address references ▸ List.Sublist.refl _
  | handle replica has =>
    exact Or.inl (less_of_table has (fun other => (ReplicaTable.has_cons_handle has other).mp)
      (List.Sublist.refl _) fun _ member => by cases member)
  | lease replica has =>
    exact Or.inl (less_of_table has (fun other => (ReplicaTable.has_cons_lease has other).mp)
      (List.Sublist.refl _) fun _ member => by cases member)
  | remove address entry found =>
    exact Or.inl (less_of_table (ReplicaTable.has_of_found found)
      (fun other had => ReplicaTable.has_of_remove had) (List.filter_sublist.map _)
      fun other => Traffic.restored_of_lost)
  | unhandle replica held =>
    refine Or.inl (less_of_table (Or.inr (Or.inl held)) (fun other had => ?_)
      (List.Sublist.refl _) fun other => Traffic.restored_of_lost)
    exact had.imp_right (Or.imp_left List.mem_of_mem_erase)
  | unlease replica held =>
    refine Or.inl (less_of_table (Or.inr (Or.inr held)) (fun other had => ?_)
      (List.Sublist.refl _) fun other => Traffic.restored_of_lost)
    exact had.imp_right (Or.imp_right List.mem_of_mem_erase)

end Shift

/-! ### Where blocks come from -/

/-- A block with a new identity that the heap has ready for a turn, or the block without
bytes. -/
def Trade.Offers (trade : Trade) (turn : Turn) (block : Block) : Prop :=
  block = Block.empty ∨ trade.issued < block.id ∧ block.address = turn.place ∧
    block.capacity = turn.deed.freshLength ∧ block.capacity ≤ Word.longestBlock

theorem Trade.Offers.of_later {trade later : Trade} {turn : Turn} {block : Block}
    (issued : trade.issued ≤ later.issued) (offers : later.Offers turn block) :
    trade.Offers turn block :=
  offers.imp_right fun fresh => ⟨Nat.lt_of_le_of_lt issued fresh.1, fresh.2⟩

section Holds

variable {turn : Turn} {drawn : Option Block} {trade mid after : Trade}
  {asked traffic : List Traffic} {block : Block}

theorem Trade.holds_amend {aside : Aside} (holds : (trade.amend traffic aside).Holds block) :
    trade.Holds block ∨ block ∈ Traffic.restored traffic := by
  obtain ⟨place, stored⟩ := holds
  cases place with
  | kept =>
    have member := (Reserve.kept_passAll_sublist _ traffic).subset stored
    exact (List.mem_append.mp member).imp_left fun kept => ⟨.kept, kept⟩
  | rented => exact Or.inl ⟨.rented, stored⟩
  | pinned => exact Or.inl ⟨.pinned, stored⟩
  | backing => exact Or.inl ⟨.backing, stored⟩

theorem Less.holds (less : Less trade traffic after) (holds : after.Holds block) :
    trade.Holds block := by
  obtain ⟨place, stored⟩ := holds
  exact ⟨place, less.stores place block stored⟩

theorem Less.holds_restored (less : Less trade traffic after)
    (member : block ∈ Traffic.restored traffic) : trade.Holds block := by
  rcases less.restored block member with rented | ⟨-, pinned | backing⟩
  · exact ⟨.rented, rented⟩
  · exact ⟨.pinned, pinned⟩
  · exact ⟨.backing, backing⟩

theorem Trade.holds_hold {held : Block} (holds : (trade.hold held).Holds block) :
    block = held ∨ trade.Holds block := by
  obtain ⟨place, stored⟩ := holds
  cases place with
  | kept => exact Or.inr ⟨.kept, stored⟩
  | rented => exact (List.mem_cons.mp stored).imp_right fun rented => ⟨.rented, rented⟩
  | pinned => exact Or.inr ⟨.pinned, stored⟩
  | backing => exact Or.inr ⟨.backing, stored⟩

/-- An entry brings a block to no place but under a loan, unless it was in hands. -/
theorem Entry.stores (entry : Entry turn drawn trade after) {place : Place}
    (elsewhere : place ≠ .pinned) (stored : after.Stores place block) :
    trade.Stores .rented block ∨ trade.Stores place block := by
  cases place with
  | kept => cases entry <;> exact Or.inr stored
  | rented =>
    cases entry with
    | loan => exact Or.inr (List.mem_of_mem_erase stored)
    | byte => exact Or.inr stored
    | replica => exact Or.inr (List.mem_of_mem_erase stored)
  | pinned => exact absurd rfl elsewhere
  | backing =>
    cases entry with
    | loan => exact Or.inr stored
    | byte => exact Or.inr stored
    | replica replica source held fresh missing =>
      obtain ⟨other, had, rfl⟩ := stored
      rcases ReplicaTable.has_add.mp had with rfl | older
      · exact Or.inl held
      · exact Or.inr ⟨other, older, rfl⟩

/-- An entry brings the drawn block under a loan, or the byte for a loan of no bytes. -/
theorem Entry.pinned (entry : Entry turn drawn trade after) (stored : after.Stores .pinned block) :
    trade.Stores .pinned block ∨ block ∈ trade.rented ∧ drawn = some block ∨
      block = trade.freshBlock turn 1 false ∧ turn.deed.freshLength = 1 ∧
        after.issued = trade.issued + 1 := by
  cases entry with
  | loan loan loans source held positive long accepted =>
    rcases stored with ⟨other, member, rfl⟩ | viewed
    · rcases (LoanBook.mem_of_enter accepted).mp member with rfl | older
      · exact Or.inr (Or.inl ⟨held, source⟩)
      · exact Or.inl (Or.inl ⟨other, older, rfl⟩)
    · exact Or.inl (Or.inr viewed)
  | byte loan loans offered source zero accepted =>
    rcases stored with ⟨other, member, rfl⟩ | viewed
    · rcases (LoanBook.mem_of_enter accepted).mp member with rfl | older
      · exact Or.inr (Or.inr ⟨source, offered, rfl⟩)
      · exact Or.inl (Or.inl ⟨other, older, rfl⟩)
    · exact Or.inl (Or.inr viewed)
  | replica => exact Or.inl stored

theorem Entry.holds (entry : Entry turn drawn trade after) (holds : after.Holds block) :
    trade.Holds block ∨ block = trade.freshBlock turn 1 false ∧
      turn.deed.freshLength = 1 ∧ after.issued = trade.issued + 1 := by
  obtain ⟨place, stored⟩ := holds
  by_cases pinned : place = .pinned
  · subst pinned
    rcases entry.pinned stored with older | ⟨rented, -⟩ | byte
    · exact Or.inl ⟨.pinned, older⟩
    · exact Or.inl ⟨.rented, rented⟩
    · exact Or.inr byte
  · rcases entry.stores pinned stored with rented | older
    · exact Or.inl ⟨.rented, rented⟩
    · exact Or.inl ⟨place, older⟩

theorem Entry.issued_le (entry : Entry turn drawn trade after) :
    trade.issued ≤ after.issued := by
  cases entry with
  | loan loan loans source held positive long accepted => exact Nat.le_refl _
  | byte loan loans offered source zero accepted => exact Nat.le_succ _
  | replica replica source held fresh missing => exact Nat.le_succ _

theorem Shift.issued_le (shift : Shift turn drawn trade traffic after) :
    trade.issued ≤ after.issued := by
  rcases shift.less_or_entry with less | ⟨-, entry⟩
  · exact less.issued
  · exact entry.issued_le

theorem Shift.holds {aside : Aside} (shift : Shift turn drawn trade traffic after)
    (holds : (after.amend traffic aside).Holds block) :
    trade.Holds block ∨ trade.Offers turn block := by
  rcases shift.less_or_entry with less | ⟨rfl, entry⟩
  · rcases Trade.holds_amend holds with holds | restored
    · exact Or.inl (less.holds holds)
    · exact Or.inl (less.holds_restored restored)
  · rcases Trade.holds_amend holds with holds | restored
    · rcases entry.holds holds with holds | ⟨rfl, length, -⟩
      · exact Or.inl holds
      · refine Or.inr (Or.inr ⟨Nat.lt_succ_self _, rfl, length.symm, ?_⟩)
        show 1 ≤ Word.longestBlock
        decide
    · cases restored

theorem Shifts.holds (shifts : Shifts turn drawn trade traffic after)
    (holds : after.Holds block) : trade.Holds block ∨ trade.Offers turn block := by
  induction shifts with
  | done => exact Or.inl holds
  | more aside first others inductionHypothesis =>
    rcases inductionHypothesis holds with holds | offered
    · exact first.holds holds
    · exact Or.inr (offered.of_later first.issued_le)

theorem Draw.issued_le (draw : Draw turn trade asked drawn mid) :
    trade.issued ≤ mid.issued := by
  cases draw with
  | fresh length asked positive short offered requests => exact Nat.le_succ _
  | _ => exact Nat.le_refl _

theorem Draw.restored_eq_nil (draw : Draw turn trade asked drawn mid) :
    Traffic.restored asked = [] := by
  cases draw with
  | idle => rfl
  | empty => rfl
  | miss length => rfl
  | kept length found rest taken => rfl
  | fresh length asked positive short offered requests =>
    exact Traffic.restored_of_requests requests

/-- A draw moves a block into hands that was kept, or one that was nowhere. -/
theorem Draw.holds {aside : Aside} (draw : Draw turn trade asked drawn mid)
    (amended : (mid.amend asked aside).Holds block) :
    trade.Holds block ∨ trade.Offers turn block := by
  have holds : mid.Holds block := by
    refine (Trade.holds_amend amended).resolve_right fun restored => ?_
    rw [draw.restored_eq_nil] at restored
    cases restored
  clear amended
  cases draw with
  | idle => exact Or.inl holds
  | empty =>
    rcases Trade.holds_hold holds with rfl | holds
    · exact Or.inr (Or.inl rfl)
    · exact Or.inl holds
  | miss length => exact Or.inl holds
  | kept length found rest taken =>
    rcases Trade.holds_hold holds with rfl | holds
    · exact Or.inl ⟨.kept, Reserve.mem_of_takeFirst taken⟩
    · exact Or.inl holds
  | fresh length asked positive short offered requests =>
    rcases Trade.holds_hold holds with rfl | holds
    · exact Or.inr (Or.inr ⟨Nat.lt_succ_self _, rfl, offered.symm, short⟩)
    · exact Or.inl holds

theorem Moves.holds (moves : Moves turn trade traffic after) (holds : after.Holds block) :
    trade.Holds block ∨ trade.Offers turn block := by
  cases moves with
  | intro aside draw shifts =>
    rcases shifts.holds holds with holds | offered
    · exact draw.holds holds
    · exact Or.inr (offered.of_later draw.issued_le)

end Holds

/-- The blocks after a turn were there before, or the heap had them ready. -/
theorem Trade.holds_take {trade : Trade} {turn : Turn} {block : Block}
    (holds : (trade.take turn).Holds block) : trade.Holds block ∨ trade.Offers turn block := by
  have moves := trade.moves_take turn
  exact moves.holds holds

end MemoryLending
