/-
This file proves what callers can rely on about blocks. A block is kept, rented, pinned, storage
of a replica, or gone, and in no two of these places at once. Whoever gets a block, as a loan, as
storage or in hands, gets one that nobody else holds. A block that is pinned or is storage comes
back to the reserve once, in the turn in which its last holder goes, in whatever order the
holders go; and what is gone is gone for good.
-/

import MemoryLending.Proofs.Departures

namespace MemoryLending

namespace Trade

/-! ### Where a block is -/

/-- Whether the block with an identity is in a place, or gone if no place is given. -/
def At (trade : Trade) : Option Place → Nat → Prop
  | some place, id => ∃ block, trade.Stores place block ∧ block.id = id
  | none, id => ∀ block, trade.Holds block → block.id ≠ id

/-- Whether somebody outside the reserve has the block with an identity. -/
def Busy (trade : Trade) (id : Nat) : Prop := ∃ place, place ≠ .kept ∧ trade.At (some place) id

/-- How often the block with an identity is in a place. -/
def tally (trade : Trade) (id : Nat) : Place → Nat
  | .kept => Block.copies id trade.kept
  | .rented => Block.copies id trade.rented
  | .pinned => (trade.desk.lender.pins id).toNat
  | .backing => (trade.replicas.backs id).toNat

theorem toNat_pos_iff {flag : Bool} : 0 < flag.toNat ↔ flag = true := by
  cases flag <;> decide

theorem at_iff_tally {trade : Trade} {place : Place} {id : Nat} :
    trade.At (some place) id ↔ 0 < trade.tally id place := by
  cases place with
  | kept => exact Block.copies_pos.symm
  | rented => exact Block.copies_pos.symm
  | pinned => exact Lender.pins_iff.symm.trans toNat_pos_iff.symm
  | backing => exact backs_iff.symm.trans toNat_pos_iff.symm

theorem tally_eq_zero {trade : Trade} {place : Place} {id : Nat}
    (absent : ¬trade.At (some place) id) : trade.tally id place = 0 :=
  Nat.eq_zero_of_not_pos (mt at_iff_tally.mpr absent)

theorem out_eq_tally (trade : Trade) (id : Nat) :
    trade.out id = trade.tally id .rented + trade.tally id .pinned + trade.tally id .backing := rfl

theorem stock_eq_tally (trade : Trade) (id : Nat) :
    trade.stock id = trade.tally id .kept + (trade.tally id .rented + trade.tally id .pinned +
      trade.tally id .backing) := rfl

/-- A block is in one place, or it is gone. -/
theorem Custody.exists_unique_place {trade : Trade} (custody : trade.Custody) {id : Nat}
    (real : id ≠ 0) : ∃! place, trade.At place id := by
  have single := custody.single id real
  rw [stock_eq_tally] at single
  by_cases gone : trade.At none id
  · refine ⟨none, gone, fun place here => ?_⟩
    cases place with
    | none => rfl
    | some place =>
      obtain ⟨block, stored, same⟩ := here
      exact absurd same (gone block ⟨place, stored⟩)
  · simp only [At, not_forall, not_not] at gone
    obtain ⟨block, ⟨place, stored⟩, same⟩ := gone
    refine ⟨some place, ⟨block, stored, same⟩, fun other here => ?_⟩
    have one := at_iff_tally.mp ⟨block, stored, same⟩
    cases other with
    | none => exact absurd same (here block ⟨place, stored⟩)
    | some other =>
      -- In two places the block would be counted twice.
      have two := at_iff_tally.mp here
      by_contra different
      have different : other ≠ place := fun same => different (congrArg some same)
      cases place <;> cases other <;> first | exact different rfl | omega

theorem Custody.not_busy {trade : Trade} (custody : trade.Custody) {id : Nat} (real : id ≠ 0)
    (kept : trade.At (some .kept) id) : ¬trade.Busy id := by
  rintro ⟨place, outside, here⟩
  have same := (custody.exists_unique_place real).unique here kept
  exact outside (Option.some.inj same)

theorem not_busy_of_later {trade : Trade} (custody : trade.Custody) {id : Nat}
    (later : trade.issued < id) : ¬trade.Busy id := by
  rintro ⟨place, -, block, stored, rfl⟩
  exact Nat.not_lt_of_le (custody.named.issued block ⟨place, stored⟩) later

/-! ### Who gets a block -/

section Moves

variable {turn : Turn} {drawn : Option Block} {trade mid after : Trade}
  {asked traffic : List Traffic}

/-- Only the drawn block, or the byte for a loan of no bytes, gets a new holder. -/
structure Gains (before : Trade) (drawn : Option Block) (after : Trade) : Prop where
  issued : before.issued ≤ after.issued
  rented : after.rented.Sublist before.rented
  loans : ∀ loan ∈ after.loans,
    loan ∈ before.loans ∨ drawn = some loan.block ∨ before.issued < loan.block.id
  pinned : ∀ block, after.Stores .pinned block →
    before.Stores .pinned block ∨ drawn = some block ∨ before.issued < block.id
  has : ∀ replica, after.replicas.Has replica →
    before.replicas.Has replica ∨ drawn = some replica.storage

theorem gains_of_entry (entry : Entry turn drawn trade after) : Gains trade drawn after := by
  have rented : after.rented.Sublist trade.rented := by
    cases entry with
    | loan => exact List.erase_sublist
    | byte => exact List.Sublist.refl _
    | replica => exact List.erase_sublist
  have loans : ∀ loan ∈ after.loans,
      loan ∈ trade.loans ∨ drawn = some loan.block ∨ trade.issued < loan.block.id := by
    intro other member
    cases entry with
    | loan loan loans source held positive long accepted =>
      rcases (LoanBook.mem_of_enter accepted).mp member with rfl | older
      · exact Or.inr (Or.inl source)
      · exact Or.inl older
    | byte loan loans offered source zero accepted =>
      rcases (LoanBook.mem_of_enter accepted).mp member with rfl | older
      · exact Or.inr (Or.inr (source ▸ Nat.lt_succ_self _))
      · exact Or.inl older
    | replica => exact Or.inl member
  refine ⟨entry.issued_le, rented, loans, fun block stored => ?_, fun other had => ?_⟩
  · rcases entry.pinned stored with older | ⟨-, source⟩ | ⟨rfl, -⟩
    · exact Or.inl older
    · exact Or.inr (Or.inl source)
    · exact Or.inr (Or.inr (Nat.lt_succ_self _))
  · cases entry with
    | loan => exact Or.inl had
    | byte => exact Or.inl had
    | replica replica source held fresh missing =>
      rcases ReplicaTable.has_add.mp had with rfl | older
      · exact Or.inr source
      · exact Or.inl older

theorem gains_of_shift (shift : Shift turn drawn trade traffic after) :
    Gains trade drawn after := by
  rcases shift.less_or_entry with less | ⟨-, entry⟩
  · exact ⟨less.issued, less.rented, fun _ member => Or.inl (less.loans.subset member),
      fun block stored => Or.inl (less.stores .pinned block stored),
      fun _ had => Or.inl (less.has _ had)⟩
  · exact gains_of_entry entry

theorem gains_of_shifts (shifts : Shifts turn drawn trade traffic after) :
    Gains trade drawn after := by
  induction shifts with
  | done trade =>
    exact ⟨Nat.le_refl _, List.Sublist.refl _, fun _ => Or.inl, fun _ => Or.inl, fun _ => Or.inl⟩
  | more aside first others inductionHypothesis =>
    have gains := gains_of_shift first
    refine ⟨Nat.le_trans gains.issued inductionHypothesis.issued,
      inductionHypothesis.rented.trans gains.rented, fun loan member => ?_,
      fun block stored => ?_, fun replica had => ?_⟩
    · rcases inductionHypothesis.loans loan member with older | passed | later
      · exact gains.loans loan older
      · exact Or.inr (Or.inl passed)
      · exact Or.inr (Or.inr (Nat.lt_of_le_of_lt gains.issued later))
    · rcases inductionHypothesis.pinned block stored with older | passed | later
      · exact gains.pinned block older
      · exact Or.inr (Or.inl passed)
      · exact Or.inr (Or.inr (Nat.lt_of_le_of_lt gains.issued later))
    · exact (inductionHypothesis.has replica had).elim (gains.has replica) Or.inr

theorem rented_of_draw (draw : Draw turn trade asked drawn mid) :
    mid.rented = drawn.toList ++ trade.rented := by
  cases draw <;> rfl

/-- The drawn block has been kept, or it is fresh, or it has no bytes. -/
theorem not_busy_of_draw (custody : trade.Custody) (draw : Draw turn trade asked drawn mid)
    {block : Block} (here : drawn = some block) (real : block.id ≠ 0) : ¬trade.Busy block.id := by
  cases draw with
  | idle => cases here
  | miss length => cases here
  | empty =>
    cases here
    exact absurd rfl real
  | kept length found rest taken =>
    cases here
    exact custody.not_busy real ⟨block, Reserve.mem_of_takeFirst taken, rfl⟩
  | fresh length asked positive short offered requests =>
    cases here
    exact not_busy_of_later custody (Nat.lt_succ_self _)

/-- Whether a block has been rented once more, lent, or made storage between two trades. -/
def Gained (before after : Trade) (block : Block) : Prop :=
  before.rented.count block < after.rented.count block ∨
    (∃ loan ∈ after.loans, loan ∉ before.loans ∧ loan.block = block) ∨
      ∃ replica, after.replicas.Has replica ∧ ¬before.replicas.Has replica ∧
        replica.storage = block

/-- Who gets a block gets one that nobody had. -/
theorem not_busy_of_gained (custody : trade.Custody) (moves : Moves turn trade traffic after)
    {block : Block} (gained : Gained trade after block) (real : block.id ≠ 0) :
    ¬trade.Busy block.id := by
  cases moves with
  | @intro asked traffic drawn mid after aside draw shifts =>
    have gains := gains_of_shifts shifts
    have issued := draw.issued_le
    have loans : mid.loans = trade.loans := by cases draw <;> rfl
    have replicas : mid.replicas = trade.replicas := by cases draw <;> rfl
    have passed : drawn = some block → ¬trade.Busy block.id := fun here =>
      not_busy_of_draw custody draw here real
    rcases gained with more | ⟨loan, member, new, rfl⟩ | ⟨replica, had, new, rfl⟩
    · have fewer : after.rented.count block ≤ mid.rented.count block := gains.rented.count_le block
      rw [rented_of_draw draw, List.count_append] at fewer
      have member : block ∈ drawn.toList := List.count_pos_iff.mp (by omega)
      exact passed (Option.mem_toList.mp member)
    · rcases gains.loans loan member with older | here | later
      · exact absurd (loans ▸ older) new
      · exact passed here
      · exact not_busy_of_later custody (Nat.lt_of_le_of_lt issued later)
    · rcases gains.has replica had with older | here
      · exact absurd (replicas ▸ older) new
      · exact passed here

/-- Outside the reserve a block is where it has been, or nobody had it. -/
theorem stores_or_not_busy (custody : trade.Custody) (moves : Moves turn trade traffic after)
    {place : Place} {block : Block} (outside : place ≠ .kept) (stored : after.Stores place block)
    (real : block.id ≠ 0) : trade.Stores place block ∨ ¬trade.Busy block.id := by
  cases moves with
  | @intro asked traffic drawn mid after aside draw shifts =>
    have gains := gains_of_shifts shifts
    have passed : drawn = some block → ¬trade.Busy block.id := fun here =>
      not_busy_of_draw custody draw here real
    cases place with
    | kept => exact absurd rfl outside
    | rented =>
      have member : block ∈ mid.rented := gains.rented.subset stored
      rw [rented_of_draw draw] at member
      rcases List.mem_append.mp member with here | older
      · exact Or.inr (passed (Option.mem_toList.mp here))
      · exact Or.inl older
    | pinned =>
      rcases gains.pinned block stored with older | here | later
      · cases draw <;> exact Or.inl older
      · exact Or.inr (passed here)
      · exact Or.inr (not_busy_of_later custody (Nat.lt_of_le_of_lt draw.issued_le later))
    | backing =>
      obtain ⟨replica, had, rfl⟩ := stored
      rcases gains.has replica had with older | here
      · cases draw <;> exact Or.inl ⟨replica, older, rfl⟩
      · exact Or.inr (passed here)

/-- Outside the reserve a block does not change places. -/
theorem not_elsewhere (custody : trade.Custody) (moves : Moves turn trade traffic after)
    {place other : Place} {block : Block} (outside : place ≠ .kept)
    (stored : trade.Stores place block) (real : block.id ≠ 0) (beyond : other ≠ .kept)
    (different : other ≠ place) : ¬after.At (some other) block.id := by
  rintro ⟨found, elsewhere, same⟩
  rcases stores_or_not_busy custody moves beyond elsewhere (same ▸ real) with before | free
  · have first : trade.At (some other) block.id := ⟨found, before, same⟩
    have second : trade.At (some place) block.id := ⟨block, stored, rfl⟩
    exact different (Option.some.inj ((custody.exists_unique_place real).unique first second))
  · exact free ⟨place, outside, block, stored, same.symm⟩

/-! ### What comes back -/

/-- While a block is in nobody's hands, shifts take it from its holders to the reserve only. -/
theorem out_of_shifts (custody : trade.Custody)
    (shifts : Shifts turn drawn trade traffic after) {id : Nat} (real : id ≠ 0)
    (old : id ≤ trade.issued) (absent : Block.copies id trade.rented = 0)
    (pooled : ∀ block, trade.Holds block → block.id = id → block.pooled = true) :
    after.out id + Block.copies id (Traffic.restored traffic) = trade.out id := by
  induction shifts with
  | done trade => rfl
  | @more trade shifted after traffic rest aside first others inductionHypothesis =>
    have here : shifted.out id + Block.copies id (Traffic.restored traffic) = trade.out id := by
      rcases settles_or_entry custody first with settles | ⟨rfl, entry⟩
      · exact (settles id real).2 absent pooled
      · refine (out_of_entry custody entry real).resolve_right fun later => ?_
        exact Nat.not_lt_of_le old later.1
    have still : Block.copies id shifted.rented = 0 :=
      Nat.le_zero.mp (absent ▸ Block.copies_le_of_sublist (gains_of_shift first).rented id)
    have pooled' : ∀ block, (shifted.amend traffic aside).Holds block → block.id = id →
        block.pooled = true := by
      intro block holds same
      rcases first.holds holds with older | rfl | ⟨later, -⟩
      · exact pooled block older same
      · exact absurd same.symm real
      · exact absurd old (Nat.not_le_of_lt (same ▸ later))
    have there : after.out id + Block.copies id (Traffic.restored rest) = shifted.out id :=
      inductionHypothesis (custody.of_shift first aside) (Nat.le_trans old first.issued_le) still
        pooled'
    rw [Traffic.restored_append, Block.copies_append]
    omega

/-- A pooled block that is pinned or storage stays so, or it comes back, and then once. -/
theorem returned_once (custody : trade.Custody) (moves : Moves turn trade traffic after)
    {place : Place} {block : Block} (shelter : place = .pinned ∨ place = .backing)
    (stored : trade.Stores place block) (real : block.id ≠ 0) (pooled : block.pooled = true) :
    after.tally block.id place + Block.copies block.id (Traffic.restored traffic) = 1 := by
  have vacant : ∀ other, other ≠ .kept → other ≠ place → after.tally block.id other = 0 := by
    intro other beyond different
    refine tally_eq_zero (not_elsewhere custody moves ?_ stored real beyond different)
    rintro rfl
    exact shelter.elim nofun nofun
  cases moves with
  | @intro asked traffic drawn mid after aside draw shifts =>
    -- The draw leaves the block where it is, and then it is out once and in nobody's hands.
    have custody' := custody.of_draw draw aside
    have stored' : (mid.amend asked aside).Stores place block := by
      rcases shelter with rfl | rfl <;> cases draw <;> exact stored
    have one := at_iff_tally.mp ⟨block, stored', rfl⟩
    have single := custody'.single block.id real
    rw [stock_eq_tally] at single
    have absent : (mid.amend asked aside).tally block.id .rented = 0 := by
      rcases shelter with rfl | rfl <;> omega
    have out : (mid.amend asked aside).out block.id = 1 := by
      rw [out_eq_tally]
      rcases shelter with rfl | rfl <;> omega
    have balance := out_of_shifts custody' shifts real (custody'.named.issued block ⟨_, stored'⟩)
      absent fun other holds same =>
        custody'.named.unique other block holds ⟨_, stored'⟩ same ▸ pooled
    rw [out, out_eq_tally, vacant .rented nofun (by rcases shelter with rfl | rfl <;> nofun)]
      at balance
    rw [Traffic.restored_append, draw.restored_eq_nil, List.nil_append]
    rcases shelter with rfl | rfl
    · rw [vacant .backing nofun nofun] at balance
      omega
    · rw [vacant .pinned nofun nofun] at balance
      omega

/-- What comes back is pooled. -/
theorem pooled_of_restored_shifts (custody : trade.Custody)
    (shifts : Shifts turn drawn trade traffic after) :
    ∀ block ∈ Traffic.restored traffic, block.pooled = true := by
  induction shifts with
  | done => nofun
  | @more trade shifted after traffic rest aside first others inductionHypothesis =>
    rw [Traffic.restored_append]
    refine List.forall_mem_append.mpr
      ⟨fun block member => ?_, inductionHypothesis (custody.of_shift first aside)⟩
    rcases first.less_or_entry with less | ⟨rfl, -⟩
    · rcases less.restored block member with rented | ⟨pooled, -⟩
      · exact custody.pooled .rented block nofun rented
      · exact pooled
    · cases member

theorem pooled_of_restored (custody : trade.Custody) (moves : Moves turn trade traffic after) :
    ∀ block ∈ Traffic.restored traffic, block.pooled = true := by
  cases moves with
  | intro aside draw shifts =>
    rw [Traffic.restored_append, draw.restored_eq_nil, List.nil_append]
    exact pooled_of_restored_shifts (custody.of_draw draw aside) shifts

theorem reserve_of_shifts (shifts : Shifts turn drawn trade traffic after) :
    after.desk.lender.reserve = trade.desk.lender.reserve.passAll traffic := by
  induction shifts with
  | done => rfl
  | @more trade shifted after traffic rest aside first others inductionHypothesis =>
    have same : shifted.desk.lender.reserve = trade.desk.lender.reserve := by
      rcases first.less_or_entry with less | ⟨-, entry⟩
      · exact less.reserve
      · cases entry <;> rfl
    rw [inductionHypothesis, Reserve.passAll_append, ← same]
    rfl

/-- The traffic is all that happens to the reserve. -/
theorem reserve_of_moves (moves : Moves turn trade traffic after) :
    after.desk.lender.reserve = trade.desk.lender.reserve.passAll traffic := by
  cases moves with
  | @intro asked traffic drawn mid after aside draw shifts =>
    have same : mid.desk.lender.reserve = trade.desk.lender.reserve := by cases draw <;> rfl
    rw [reserve_of_shifts shifts, Reserve.passAll_append, ← same]
    rfl

end Moves

theorem reserve_take (trade : Trade) (turn : Turn) :
    (trade.take turn).desk.lender.reserve =
      trade.desk.lender.reserve.passAll (trade.asked turn ++ trade.back turn) := by
  have reserve := reserve_of_moves (trade.moves_take turn)
  exact reserve

/-- A loan that does not come about gives its block back. -/
theorem reserve_of_refused {trade : Trade} (custody : trade.Custody) {size : Nat} {block : Block}
    {after : Desk} {fault : Fault} (positive : size ≠ 0)
    (drawn : trade.desk.procure size = (.ok block, after))
    (refused : (trade.desk.lend size).1 = .error fault) :
    (trade.desk.lend size).2.lender.reserve = (after.lender.reserve.restore block).2 := by
  have pooled : block.pooled = true := by
    have outcome := trade.desk.procured size
    rw [drawn] at outcome
    cases outcome with
    | nothing zero => rfl
    | kept block rest aside positive taken =>
      exact custody.pooled .kept block nofun (Reserve.mem_of_takeFirst taken)
    | fresh => rfl
  have procured : trade.desk.blockFor size = (.ok block, after) := (if_neg positive).trans drawn
  have outcome := trade.desk.lending size
  generalize trade.desk.lend size = result at outcome refused
  cases outcome with
  | failed fault after' failing => cases procured.symm.trans failing
  | refused fault block' after' aside drawing conflict =>
    cases procured.symm.trans drawing
    have retirement : block.retirement = [.restore block] := if_pos pooled
    rw [retirement]
    rfl
  | granted => cases refused

/-! ### Over runs -/

theorem issued_le_take (trade : Trade) (turn : Turn) :
    trade.issued ≤ (trade.take turn).issued := by
  have moves := trade.moves_take turn
  generalize trade.asked turn ++ trade.back turn = traffic at moves
  cases moves with
  | intro aside draw shifts => exact Nat.le_trans draw.issued_le (gains_of_shifts shifts).issued

theorem issued_le_run (trade : Trade) (turns : List Turn) :
    trade.issued ≤ (trade.run turns).issued := by
  induction turns generalizing trade with
  | nil => exact Nat.le_refl _
  | cons turn rest inductionHypothesis =>
    exact Nat.le_trans (trade.issued_le_take turn) (inductionHypothesis (trade.take turn))

/-- No identity is given out twice. -/
theorem holds_of_run {trade : Trade} {turns : List Turn} {block : Block}
    (holds : (trade.run turns).Holds block) (real : block.id ≠ 0) (old : block.id ≤ trade.issued) :
    trade.Holds block := by
  induction turns generalizing trade with
  | nil => exact holds
  | cons turn rest inductionHypothesis =>
    have before := inductionHypothesis holds (Nat.le_trans old (trade.issued_le_take turn))
    rcases holds_take before with older | rfl | ⟨later, -⟩
    · exact older
    · exact absurd rfl real
    · exact absurd old (Nat.not_le_of_lt later)

/-- An identity names one block for good. -/
theorem Custody.eq_of_run {trade : Trade} (custody : trade.Custody) {turns : List Turn}
    {first second : Block} (now : trade.Holds first) (then' : (trade.run turns).Holds second)
    (same : first.id = second.id) : first = second := by
  by_cases real : first.id = 0
  · rw [custody.named.empty first now real,
      (custody.run turns).named.empty second then' (same ▸ real)]
  · have old : second.id ≤ trade.issued := same ▸ custody.named.issued first now
    have before := holds_of_run then' (same ▸ real) old
    exact custody.named.unique first second now before same

theorem Custody.loan_of_unpooled {trade : Trade} (custody : trade.Custody) {block : Block}
    (holds : trade.Holds block) (unpooled : block.pooled = false) :
    ∃ loan ∈ trade.loans, loan.length = 0 ∧ loan.block = block := by
  obtain ⟨place, stored⟩ := holds
  by_cases pinned : place = .pinned
  · subst pinned
    rcases stored with ⟨loan, lent, rfl⟩ | ⟨view, opened, rfl⟩
    · exact ⟨loan, lent, (custody.bytes loan lent).mpr unpooled, rfl⟩
    · exact absurd (custody.views view opened) (Bool.eq_false_iff.mp unpooled)
  · exact absurd (custody.pooled place block pinned stored) (Bool.eq_false_iff.mp unpooled)

/-! ### Safekeeping -/

/-- Whether a pooled block with bytes leaves where it was pinned or storage. -/
def Departs (before after : Trade) (block : Block) : Prop :=
  block.pooled = true ∧ block.id ≠ 0 ∧ ∃ place, (place = .pinned ∨ place = .backing) ∧
    before.Stores place block ∧ ¬after.Stores place block

/-- What a turn does to the reserve. -/
structure Returned (before : Trade) (turn : Turn) (after : Trade) : Prop where
  /-- A deed that lets go brings back the blocks whose last holder goes, each of them once, and
  nothing else happens to the reserve. -/
  going : turn.deed.letsGo = true → ∃ blocks : List Block, blocks.Nodup ∧
    (∀ block, block ∈ blocks ↔ Departs before after block) ∧
      after.desk.lender.reserve = before.desk.lender.reserve.passAll (blocks.map .restore)
  /-- With any other deed no block loses its last holder, and the reserve sees what the deed asks
  for and what comes back from it, which is pooled. -/
  staying : turn.deed.letsGo = false → (∀ block, ¬Departs before after block) ∧
    (∀ block ∈ Traffic.restored (before.back turn), block.pooled = true) ∧
      after.desk.lender.reserve =
        before.desk.lender.reserve.passAll (before.asked turn ++ before.back turn)

/-- What callers can rely on about blocks. -/
structure Safekeeping (trade : Trade) : Prop where
  /-- An identity names one block for good, and a block with bytes has one. -/
  named : ∀ later first second, trade.Holds first → (trade.run later).Holds second →
    first.id = second.id → first = second
  real : ∀ block, trade.Holds block → block.capacity ≠ 0 → block.id ≠ 0
  /-- A block is in one place, or it is gone. -/
  placed : ∀ id, id ≠ 0 → ∃! place, trade.At place id
  /-- It is there once: kept or rented, under one loan, or as the storage of one replica. -/
  once : ∀ id, id ≠ 0 → Block.copies id (trade.kept ++ trade.rented) ≤ 1
  apart : (trade.loans.map (·.block.id)).Nodup
  storage : ∀ first second, trade.replicas.Has first → trade.replicas.Has second →
    first.storage.id = second.storage.id → first.storage.id ≠ 0 → first = second
  /-- What is gone stays gone. -/
  gone : ∀ block, trade.Holds block → block.id ≠ 0 → ∀ later, (trade.run later).At none block.id →
    ∀ more, ((trade.run later).run more).At none block.id
  /-- Who gets a block gets one that nobody had. -/
  free : ∀ turn block, Gained trade (trade.take turn) block → block.id ≠ 0 →
    ¬trade.Busy block.id
  /-- A block comes back to the reserve when its last holder goes, once, and not before. -/
  returned : ∀ turn, Returned trade turn (trade.take turn)
  /-- A loan that does not come about gives back the block it would have pinned. -/
  refused : ∀ size place block after fault, size ≠ 0 →
    (trade.ready place).desk.procure size = (.ok block, after) →
      ((trade.ready place).desk.lend size).1 = .error fault →
        (trade.take ⟨.lend size, place⟩).desk.lender.reserve =
          (after.lender.reserve.restore block).2
  /-- The byte for a loan of no bytes is not pooled and never kept, and every other block is
  pooled. -/
  byte : ∀ loan ∈ trade.loans, loan.length = 0 → loan.block.pooled = false ∧
    ∀ later, ¬(trade.run later).At (some .kept) loan.block.id
  unpooled : ∀ block, trade.Holds block → block.pooled = false →
    ∃ loan ∈ trade.loans, loan.length = 0 ∧ loan.block = block

/-- A block departs if and only if it comes back, and then it comes back once. -/
theorem Custody.copies_of_turn {trade : Trade} (custody : trade.Custody) (turn : Turn)
    {place : Place} {block : Block} (shelter : place = .pinned ∨ place = .backing)
    (stored : trade.Stores place block) (real : block.id ≠ 0) (pooled : block.pooled = true) :
    (trade.take turn).tally block.id place +
      Block.copies block.id (Traffic.restored (trade.back turn)) = 1 := by
  have custody' := custody.ready turn.place
  have moves := trade.moves_take turn
  have stored' : (trade.ready turn.place).Stores place block := by
    rcases shelter with rfl | rfl <;> exact stored
  have once := returned_once custody' moves shelter stored' real pooled
  rwa [Traffic.restored_append, restored_asked, List.nil_append] at once

theorem Custody.stores_iff_tally {trade : Trade} (custody : trade.Custody) (turn : Turn)
    {place : Place} {block : Block} (stored : trade.Stores place block) :
    (trade.take turn).Stores place block ↔ 0 < (trade.take turn).tally block.id place := by
  refine ⟨fun still => at_iff_tally.mp ⟨block, still, rfl⟩, fun positive => ?_⟩
  obtain ⟨other, found, same⟩ := at_iff_tally.mpr positive
  have later : (trade.run [turn]).Holds other := ⟨place, found⟩
  exact (custody.eq_of_run ⟨place, stored⟩ later same.symm).symm ▸ found

theorem Custody.departs_iff {trade : Trade} (custody : trade.Custody) {turn : Turn}
    {place : Place} {block : Block} (shelter : place = .pinned ∨ place = .backing)
    (stored : trade.Stores place block) (real : block.id ≠ 0) (pooled : block.pooled = true) :
    Departs trade (trade.take turn) block ↔
      Block.copies block.id (Traffic.restored (trade.back turn)) = 1 := by
  constructor
  · rintro ⟨-, -, place, shelter, stored, left⟩
    have once := custody.copies_of_turn turn shelter stored real pooled
    have none := mt (custody.stores_iff_tally turn stored).mpr left
    omega
  · intro back
    have once := custody.copies_of_turn turn shelter stored real pooled
    refine ⟨pooled, real, place, shelter, stored, fun still => ?_⟩
    have positive := (custody.stores_iff_tally turn stored).mp still
    omega

section Going

variable {trade : Trade} (custody : trade.Custody) {turn : Turn} {blocks : List Block}
  (back : Traffic.restored (trade.back turn) = blocks)
  (stowed : ∀ block ∈ blocks, block.pooled = true ∧
    ∃ place, (place = .pinned ∨ place = .backing) ∧ trade.Stores place block)

include custody back stowed

/-- Blocks that come back from where they were pinned or storage are those that depart. -/
theorem Custody.mem_and_real_iff_departs (block : Block) :
    block ∈ blocks ∧ block.id ≠ 0 ↔ Departs trade (trade.take turn) block := by
  constructor
  · rintro ⟨member, real⟩
    obtain ⟨pooled, place, shelter, stored⟩ := stowed block member
    have once := custody.copies_of_turn turn shelter stored real pooled
    have present : 0 < Block.copies block.id (Traffic.restored (trade.back turn)) :=
      Block.copies_pos.mpr ⟨block, back.symm ▸ member, rfl⟩
    exact (custody.departs_iff shelter stored real pooled).mpr (by omega)
  · intro departs
    obtain ⟨pooled, real, place, shelter, stored, -⟩ := id departs
    have once := (custody.departs_iff shelter stored real pooled).mp departs
    rw [back] at once
    obtain ⟨other, member, same⟩ := Block.copies_pos.mp (once ▸ Nat.one_pos)
    obtain ⟨-, place', -, stored'⟩ := stowed other member
    have equal := custody.named.unique other block ⟨_, stored'⟩ ⟨_, stored⟩ same
    exact ⟨equal ▸ member, real⟩

/-- Each of them comes back once. -/
theorem Custody.nodup_of_stowed : (blocks.filter (·.id != 0)).Nodup := by
  refine Block.nodup_of_copies fun block member => ?_
  obtain ⟨member, real⟩ := List.mem_filter.mp member
  have real : block.id ≠ 0 := bne_iff_ne.mp real
  obtain ⟨pooled, place, shelter, stored⟩ := stowed block member
  have once := custody.copies_of_turn turn shelter stored real pooled
  rw [back] at once
  calc Block.copies block.id (blocks.filter (·.id != 0)) ≤ Block.copies block.id blocks :=
        Block.copies_le_of_sublist List.filter_sublist block.id
    _ ≤ 1 := once ▸ Nat.le_add_left _ _

end Going

theorem Custody.going {trade : Trade} (custody : trade.Custody) {turn : Turn}
    (letsGo : turn.deed.letsGo = true) : ∃ blocks : List Block, blocks.Nodup ∧
      (∀ block, block ∈ blocks ↔ Departs trade (trade.take turn) block) ∧
        (trade.take turn).desk.lender.reserve =
          trade.desk.lender.reserve.passAll (blocks.map .restore) := by
  obtain ⟨blocks, back, stowed⟩ := trade.stowed_back letsGo
  have restored : Traffic.restored (trade.back turn) = blocks := by
    rw [back, Traffic.restored_map_restore]
  refine ⟨blocks.filter (·.id != 0), custody.nodup_of_stowed restored stowed, fun block => ?_, ?_⟩
  · rw [List.mem_filter, bne_iff_ne]
    exact custody.mem_and_real_iff_departs restored stowed block
  · rw [trade.reserve_take, asked_of_letsGo trade letsGo, List.nil_append, back]
    -- a block without bytes is the empty one, and the reserve takes no notice of it
    refine Reserve.passAll_restores _ fun block member none => ?_
    obtain ⟨-, place, -, stored⟩ := stowed block member
    rw [custody.named.empty block ⟨place, stored⟩ none]
    rfl

theorem Custody.staying {trade : Trade} (custody : trade.Custody) {turn : Turn}
    (other : turn.deed.letsGo = false) : ∀ block, ¬Departs trade (trade.take turn) block := by
  intro block departs
  obtain ⟨pooled, real, place, shelter, stored, -⟩ := id departs
  have back := (custody.departs_iff shelter stored real pooled).mp departs
  obtain ⟨loose, member, same⟩ := Block.copies_pos.mp (back ▸ Nat.one_pos)
  exact custody.loose_apart (loose_of_back other member) real shelter stored same

theorem Custody.returned {trade : Trade} (custody : trade.Custody) (turn : Turn) :
    Returned trade turn (trade.take turn) := by
  refine ⟨custody.going, fun other => ⟨custody.staying other, ?_, trade.reserve_take turn⟩⟩
  have pooled := pooled_of_restored (custody.ready turn.place) (trade.moves_take turn)
  rwa [Traffic.restored_append, restored_asked, List.nil_append] at pooled

/-- Whatever is asked for in whatever order, and wherever the heap places blocks. -/
theorem safekeeping_run (policy : Policy) (arena : Arena) (turns : List Turn) :
    ((opened policy arena).run turns).Safekeeping := by
  have custody := (custody_opened policy arena).run turns
  generalize (opened policy arena).run turns = trade at custody
  refine
    { named := fun later first second now then' => custody.eq_of_run now then'
      real := fun block holds positive none => ?_
      placed := fun id => custody.exists_unique_place
      once := fun id real => ?_
      apart := custody.apart
      storage := custody.shared.storage
      gone := fun block holds real later absent more other held same => ?_
      free := fun turn block gained real => ?_
      returned := custody.returned
      refused := fun size place block after fault positive drawn refused => ?_
      byte := fun loan lent zero => ?_
      unpooled := fun block => custody.loan_of_unpooled }
  · exact positive (custody.named.empty block holds none ▸ rfl)
  · have single := custody.single id real
    rw [Block.copies_append]
    unfold stock out at single
    omega
  · have old : block.id ≤ (trade.run later).issued :=
      Nat.le_trans (custody.named.issued block holds) (trade.issued_le_run later)
    exact absent other (holds_of_run held (same ▸ real) (same ▸ old)) same
  · have moves := trade.moves_take turn
    have free := not_busy_of_gained (custody.ready turn.place) moves gained real
    rintro ⟨place, outside, stored⟩
    refine free ⟨place, outside, ?_⟩
    cases place <;> exact stored
  · exact reserve_of_refused (custody.ready place) positive drawn refused
  · have unpooled := (custody.bytes loan lent).mp zero
    refine ⟨unpooled, fun later => ?_⟩
    rintro ⟨block, kept, same⟩
    have pinned : trade.Stores .pinned loan.block := Or.inl ⟨loan, lent, rfl⟩
    have equal := custody.eq_of_run ⟨_, pinned⟩ ⟨_, kept⟩ same.symm
    have pooled := (custody.run later).pooled .kept block nofun kept
    rw [← equal, unpooled] at pooled
    cases pooled

/-- A view outlives its loan: the block comes back when the view is closed. -/
example :
    let block : Block := ⟨1, 4096, 8, true⟩
    let turns : List Turn := [⟨.lend 8, 4096⟩, ⟨.openView 4096 8, 0⟩, ⟨.reclaim 4096 ⟨1⟩, 0⟩]
    let trade := (opened Policy.standard (Arena.startingAt 0 16 16)).run turns
    trade.loans = [] ∧ trade.kept = [] ∧
      (trade.take ⟨.closeView ⟨block, ⟨1⟩, 0, 8⟩, 0⟩).kept = [block] := by
  decide +kernel

end Trade

end MemoryLending
