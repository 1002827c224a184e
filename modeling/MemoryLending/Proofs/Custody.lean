/-
This file proves that every block is in one place at most. Places are counted for one identity
at a time: the copies in the reserve, the copies in hands, one for a loan or views, and one for
a replica that is held. No move makes the sum greater than it was, except that a fresh block
comes in, and a block that loses its last holder is out once less and brought back once. This
needs two things to be kept besides: an identity names one block, and storage has one replica.
-/

import Mathlib.Data.List.Nodup
import MemoryLending.Proofs.Places

namespace MemoryLending

/-! ### Counting -/

/-- How many blocks of a list have an identity. -/
def Block.copies (id : Nat) (blocks : List Block) : Nat := blocks.countP (·.id == id)

namespace Block

theorem copies_cons (id : Nat) (block : Block) (blocks : List Block) :
    copies id (block :: blocks) = copies id blocks + if block.id = id then 1 else 0 := by
  unfold copies
  rw [List.countP_cons]
  simp only [beq_iff_eq]

theorem copies_append (id : Nat) (first second : List Block) :
    copies id (first ++ second) = copies id first + copies id second :=
  List.countP_append

theorem copies_le_of_sublist {first second : List Block} (sublist : first.Sublist second)
    (id : Nat) : copies id first ≤ copies id second :=
  sublist.countP_le

theorem copies_pos {id : Nat} {blocks : List Block} :
    0 < copies id blocks ↔ ∃ block ∈ blocks, block.id = id := by
  unfold copies
  simp only [List.countP_pos_iff, beq_iff_eq]

theorem count_le_copies (block : Block) (blocks : List Block) :
    blocks.count block ≤ copies block.id blocks :=
  List.countP_mono_left fun _ _ same => decide_eq_true (congrArg id (eq_of_beq same))

theorem nodup_of_copies {blocks : List Block}
    (single : ∀ block ∈ blocks, copies block.id blocks ≤ 1) : blocks.Nodup := by
  refine List.nodup_iff_count_le_one.mpr fun block => ?_
  by_cases member : block ∈ blocks
  · exact Nat.le_trans (count_le_copies block blocks) (single block member)
  · rw [List.count_eq_zero.mpr member]
    exact Nat.zero_le 1

theorem copies_eq_zero {id : Nat} {blocks : List Block} :
    copies id blocks = 0 ↔ ∀ block ∈ blocks, block.id ≠ id := by
  unfold copies
  simp only [List.countP_eq_zero, beq_iff_eq, ne_eq]

theorem copies_erase {blocks : List Block} {block : Block} (member : block ∈ blocks) (id : Nat) :
    copies id (blocks.erase block) + (if block.id = id then 1 else 0) = copies id blocks := by
  rw [← copies_cons]
  exact (List.perm_cons_erase member).symm.countP_eq _

end Block

namespace ReplicaTable

/-- Whether a replica that is held has its storage in a block. -/
def backs (table : ReplicaTable) (id : Nat) : Bool :=
  table.entries.any (·.replica.storage.id == id) || table.handles.any (·.storage.id == id) ||
    table.leases.any (·.storage.id == id)

theorem any_iff {table : ReplicaTable} (test : Replica → Bool) :
    (table.entries.any (fun entry => test entry.replica) || table.handles.any test ||
        table.leases.any test) = true ↔
      ∃ replica, table.Has replica ∧ test replica = true := by
  simp only [Bool.or_eq_true, List.any_eq_true]
  constructor
  · rintro ((⟨entry, member, passed⟩ | ⟨replica, member, passed⟩) | ⟨replica, member, passed⟩)
    · exact ⟨entry.replica, Or.inl ⟨entry, member, rfl⟩, passed⟩
    · exact ⟨replica, Or.inr (Or.inl member), passed⟩
    · exact ⟨replica, Or.inr (Or.inr member), passed⟩
  · rintro ⟨_, ⟨entry, member, rfl⟩ | member | member, passed⟩
    · exact Or.inl (Or.inl ⟨entry, member, passed⟩)
    · exact Or.inl (Or.inr ⟨_, member, passed⟩)
    · exact Or.inr ⟨_, member, passed⟩

theorem backs_iff {table : ReplicaTable} {id : Nat} :
    table.backs id = true ↔ ∃ replica, table.Has replica ∧ replica.storage.id = id := by
  rw [backs, any_iff fun replica => replica.storage.id == id]
  simp only [beq_iff_eq]

theorem backs_congr {first second : ReplicaTable}
    (same : ∀ replica, first.Has replica ↔ second.Has replica) (id : Nat) :
    first.backs id = second.backs id := by
  rw [Bool.eq_iff_iff, backs_iff, backs_iff]
  simp only [same]

/-- One more replica that is held. -/
theorem backs_of_more {more fewer : ReplicaTable} {replica : Replica}
    (holders : ∀ other, more.Has other ↔ other = replica ∨ fewer.Has other) (id : Nat) :
    more.backs id = (fewer.backs id || replica.storage.id == id) := by
  rw [Bool.eq_iff_iff, Bool.or_eq_true, beq_iff_eq, backs_iff, backs_iff]
  simp only [holders, or_and_right, exists_or, exists_eq_left]
  exact or_comm

theorem holds_iff {table : ReplicaTable} {id : Nat} :
    table.holds id = true ↔ ∃ replica, table.Has replica ∧ replica.id = id := by
  rw [holds, any_iff fun replica => replica.id == id]
  simp only [beq_iff_eq]

end ReplicaTable

namespace Lender

theorem pins_iff {lender : Lender} {id : Nat} :
    lender.pins id = true ↔ ∃ block, lender.Pins block ∧ block.id = id := by
  unfold pins Pins
  rw [Bool.or_eq_true, ← Array.any_toList, List.any_eq_true, List.any_eq_true]
  simp only [beq_iff_eq, or_and_right, exists_or, exists_exists_and_eq_and]
  rfl

theorem pins_congr {first second : Lender}
    (same : ∀ block, first.Pins block ↔ second.Pins block) (id : Nat) :
    first.pins id = second.pins id := by
  rw [Bool.eq_iff_iff, pins_iff, pins_iff]
  simp only [same]

/-- One more block that is held. -/
theorem pins_of_more {more fewer : Lender} {block : Block}
    (holders : ∀ other, more.Pins other ↔ block = other ∨ fewer.Pins other) (id : Nat) :
    more.pins id = (fewer.pins id || block.id == id) := by
  rw [Bool.eq_iff_iff, Bool.or_eq_true, beq_iff_eq, pins_iff, pins_iff]
  simp only [holders, or_and_right, exists_or, exists_eq_left']
  exact or_comm

end Lender

namespace Trade

/-- How often a block is out of the reserve: once for each time it is in hands, once for its
loan or its views, and once for its replica. -/
def out (trade : Trade) (id : Nat) : Nat :=
  Block.copies id trade.rented + (trade.desk.lender.pins id).toNat +
    (trade.replicas.backs id).toNat

/-- How often a block is anywhere. -/
def stock (trade : Trade) (id : Nat) : Nat := Block.copies id trade.kept + trade.out id

/-- An identity names one block. -/
structure Named (trade : Trade) : Prop where
  unique : ∀ first second, trade.Holds first → trade.Holds second → first.id = second.id →
    first = second
  issued : ∀ block, trade.Holds block → block.id ≤ trade.issued
  empty : ∀ block, trade.Holds block → block.id = 0 → block = Block.empty

/-- An identity names one replica, storage has one replica, and an address has one entry. -/
structure Shared (trade : Trade) : Prop where
  replica : ∀ first second, trade.replicas.Has first → trade.replicas.Has second →
    first.id = second.id → first = second
  storage : ∀ first second, trade.replicas.Has first → trade.replicas.Has second →
    first.storage.id = second.storage.id → first.storage.id ≠ 0 → first = second
  numbered : ∀ replica, trade.replicas.Has replica → replica.id ≤ trade.issued
  addresses : (trade.replicas.entries.map (·.replica.address)).Nodup

/-- Every block is in one place at most. -/
structure Custody (trade : Trade) : Prop where
  named : trade.Named
  shared : trade.Shared
  single : ∀ id, id ≠ 0 → trade.stock id ≤ 1
  solid : ∀ block ∈ trade.kept, block.capacity ≠ 0
  pooled : ∀ place block, place ≠ .pinned → trade.Stores place block → block.pooled = true
  /-- Two loans have two blocks. -/
  apart : (trade.loans.map (·.block.id)).Nodup
  /-- Only the byte for a loan of no bytes is not pooled. -/
  bytes : ∀ loan ∈ trade.loans, loan.length = 0 ↔ loan.block.pooled = false
  views : ∀ view ∈ trade.views, view.block.pooled = true

theorem backs_iff {trade : Trade} {id : Nat} :
    trade.replicas.backs id = true ↔ ∃ block, trade.Stores .backing block ∧ block.id = id := by
  rw [ReplicaTable.backs_iff]
  constructor
  · rintro ⟨replica, has, same⟩
    exact ⟨replica.storage, ⟨replica, has, rfl⟩, same⟩
  · rintro ⟨_, ⟨replica, has, rfl⟩, same⟩
    exact ⟨replica, has, same⟩

theorem stock_eq_zero {trade : Trade} {id : Nat}
    (absent : ∀ block, trade.Holds block → block.id ≠ id) : trade.stock id = 0 := by
  have kept : Block.copies id trade.kept = 0 :=
    Block.copies_eq_zero.mpr fun block member => absent block ⟨.kept, member⟩
  have rented : Block.copies id trade.rented = 0 :=
    Block.copies_eq_zero.mpr fun block member => absent block ⟨.rented, member⟩
  have pins : trade.desk.lender.pins id = false := by
    refine Bool.eq_false_iff.mpr fun pinned => ?_
    obtain ⟨block, stored, same⟩ := Lender.pins_iff.mp pinned
    exact absent block ⟨.pinned, stored⟩ same
  have backs : trade.replicas.backs id = false := by
    refine Bool.eq_false_iff.mpr fun backing => ?_
    obtain ⟨block, stored, same⟩ := backs_iff.mp backing
    exact absent block ⟨.backing, stored⟩ same
  unfold stock out
  rw [kept, rented, pins, backs]
  rfl

theorem Custody.stock_of_later {trade : Trade} (custody : trade.Custody) {id : Nat}
    (later : trade.issued < id) : trade.stock id = 0 :=
  stock_eq_zero fun block holds same =>
    Nat.not_lt_of_le (custody.named.issued block holds) (same ▸ later)

/-- What is in hands is neither pinned nor storage. -/
theorem Custody.not_pinned {trade : Trade} (custody : trade.Custody) {block : Block}
    (held : block ∈ trade.rented) (real : block.id ≠ 0) :
    ¬∃ other, trade.Stores .pinned other ∧ other.id = block.id := by
  intro pinned
  have single := custody.single block.id real
  have hands : 0 < Block.copies block.id trade.rented := Block.copies_pos.mpr ⟨block, held, rfl⟩
  rw [stock, out, Lender.pins_iff.mpr pinned, Bool.toNat_true] at single
  omega

theorem Custody.not_backing {trade : Trade} (custody : trade.Custody) {block : Block}
    (held : block ∈ trade.rented) (real : block.id ≠ 0) :
    ¬∃ replica, trade.replicas.Has replica ∧ replica.storage.id = block.id := by
  intro backing
  have single := custody.single block.id real
  have hands : 0 < Block.copies block.id trade.rented := Block.copies_pos.mpr ⟨block, held, rfl⟩
  rw [stock, out, ReplicaTable.backs_iff.mpr backing, Bool.toNat_true] at single
  omega

/-! ### Losing a holder -/

/-- A block that has lost a holder is out as before if it has another one, and otherwise it is
out no more and comes back, if it is pooled. -/
theorem released {before after held : Bool} {block : Block} {id : Nat}
    (lost : before = (after || block.id == id)) (same : block.id = id → held = after) :
    after.toNat + Block.copies id (Traffic.restored (if held then [] else block.retirement)) ≤
        before.toNat ∧
      ((block.id = id → block.pooled = true) →
        after.toNat + Block.copies id
          (Traffic.restored (if held then [] else block.retirement)) = before.toNat) := by
  by_cases here : block.id = id
  · have held := same here
    rw [beq_iff_eq.mpr here, Bool.or_true] at lost
    subst held lost
    cases held with
    | true => exact ⟨Nat.le_refl _, fun _ => rfl⟩
    | false =>
      rw [if_neg Bool.false_ne_true, Traffic.restored_retirement]
      cases pooled : block.pooled with
      | true =>
        have one : Block.copies id [block] = 1 := by
          rw [Block.copies_cons, if_pos here]
          rfl
        exact ⟨Nat.le_of_eq ((Nat.zero_add _).trans one), fun _ => (Nat.zero_add _).trans one⟩
      | false => exact ⟨Nat.zero_le _, fun pooled' => by cases pooled' here⟩
  · rw [beq_eq_false_iff_ne.mpr here, Bool.or_false] at lost
    have none : Block.copies id (Traffic.restored (if held then [] else block.retirement)) = 0 := by
      refine Block.copies_eq_zero.mpr fun other member => ?_
      exact (Traffic.restored_of_lost member).1 ▸ here
    rw [none, lost]
    exact ⟨Nat.le_refl _, fun _ => rfl⟩

/-- Who is out after a shift, and what has come back, was out before; and nothing that was
pooled and in nobody's hands is lost. -/
def Settles (before : Trade) (traffic : List Traffic) (after : Trade) (id : Nat) : Prop :=
  after.out id + Block.copies id (Traffic.restored traffic) ≤ before.out id ∧
    (Block.copies id before.rented = 0 →
      (∀ block, before.Holds block → block.id = id → block.pooled = true) →
        after.out id + Block.copies id (Traffic.restored traffic) = before.out id)

section Settles

variable {turn : Turn} {drawn : Option Block} {trade after : Trade} {traffic : List Traffic}
  {id : Nat}

theorem settles_of_same (out : after.out id = trade.out id)
    (restored : Traffic.restored traffic = []) : Settles trade traffic after id := by
  unfold Settles
  rw [restored, out]
  exact ⟨Nat.le_refl _, fun _ _ => rfl⟩

theorem settles_handIn {block : Block} (held : block ∈ trade.rented) :
    Settles trade [.restore block] (trade.part block) id := by
  have erased := Block.copies_erase held id
  have balance : (trade.part block).out id + Block.copies id [block] = trade.out id := by
    show Block.copies id (trade.rented.erase block) + (trade.desk.lender.pins id).toNat +
      (trade.replicas.backs id).toNat + Block.copies id [block] = trade.out id
    rw [Block.copies_cons, out, ← erased]
    show _ + (0 + _) = _
    omega
  exact ⟨Nat.le_of_eq balance, fun _ _ => balance⟩

theorem settles_discard (block : Block) : Settles trade [] (trade.part block) id := by
  have fewer : Block.copies id (trade.rented.erase block) ≤ Block.copies id trade.rented :=
    Block.copies_le_of_sublist List.erase_sublist id
  refine ⟨Nat.add_le_add_right (Nat.add_le_add_right fewer _) _, fun none _ => ?_⟩
  have erased : Block.copies id (trade.rented.erase block) = Block.copies id trade.rented :=
    Nat.le_antisymm fewer (none ▸ Nat.zero_le _)
  exact congrArg (· + (trade.desk.lender.pins id).toNat + (trade.replicas.backs id).toNat) erased

theorem settles_unpinning {desk : Desk} {block : Block} (holds : trade.Holds block)
    (replicas : desk.lender.replicas = trade.replicas)
    (lost : trade.desk.lender.pins id = (desk.lender.pins id || block.id == id)) :
    Settles trade (desk.unpinning block) (trade.withDesk desk) id := by
  obtain ⟨fewer, equal⟩ := released lost fun same => congrArg desk.lender.pins same
  have sum : (trade.withDesk desk).out id = Block.copies id trade.rented +
      (desk.lender.pins id).toNat + (trade.replicas.backs id).toNat := by
    rw [← replicas]
    rfl
  unfold Settles Desk.unpinning
  rw [sum, out]
  refine ⟨by omega, fun _ pooled => ?_⟩
  have := equal fun same => pooled block holds same
  omega

theorem settles_unholding {table : ReplicaTable} {replica : Replica}
    (has : trade.replicas.Has replica)
    (lost : trade.replicas.backs id = (table.backs id || replica.storage.id == id))
    (same : replica.storage.id = id → table.holds replica.id = table.backs id) :
    Settles trade ((trade.desk.withReplicas table).unholding replica)
      (trade.withDesk (trade.desk.withReplicas table)) id := by
  obtain ⟨fewer, equal⟩ := released lost same
  have sum : (trade.withDesk (trade.desk.withReplicas table)).out id =
      Block.copies id trade.rented + (trade.desk.lender.pins id).toNat +
        (table.backs id).toNat := rfl
  unfold Settles Desk.unholding
  rw [sum, out]
  refine ⟨?_, fun _ pooled => ?_⟩
  · show _ + Block.copies id (Traffic.restored (if table.holds replica.id then [] else _)) ≤ _
    omega
  · have := equal fun same => pooled replica.storage ⟨.backing, replica, has, rfl⟩ same
    show _ + Block.copies id (Traffic.restored (if table.holds replica.id then [] else _)) = _
    omega

theorem pins_strike {base : Nat} {loan : Loan}
    (found : trade.desk.lender.loans.at? base = some loan) (id : Nat) :
    trade.desk.lender.pins id =
      ((trade.desk.withLoans (trade.desk.lender.loans.strike base)).lender.pins id ||
        loan.block.id == id) := by
  refine Lender.pins_of_more (fun other => ?_) id
  unfold Lender.Pins
  simp only [LoanBook.mem_of_strike found, or_and_right, exists_or, exists_eq_left, or_assoc]
  rfl

theorem pins_unlook {view : View} (opened : view ∈ trade.views) (id : Nat) :
    trade.desk.lender.pins id =
      ((trade.desk.withViews (trade.views.erase view)).lender.pins id ||
        view.block.id == id) := by
  have views : ∀ other, other ∈ trade.desk.lender.views ↔
      other = view ∨ other ∈ trade.views.erase view := fun other =>
    (List.perm_cons_erase opened).mem_iff.trans List.mem_cons
  refine Lender.pins_of_more (fun other => ?_) id
  unfold Lender.Pins
  simp only [views, or_and_right, exists_or, exists_eq_left]
  exact or_left_comm

theorem pins_look {loan : Loan} {view : View} (member : loan ∈ trade.loans)
    (same : view.block = loan.block) (id : Nat) :
    (trade.desk.withViews (view :: trade.views)).lender.pins id =
      trade.desk.lender.pins id := by
  refine Lender.pins_congr (fun block => ⟨?_, ?_⟩) id
  · rintro (lent | ⟨other, inViews, here⟩)
    · exact Or.inl lent
    · rcases List.mem_cons.mp inViews with rfl | older
      · exact Or.inl ⟨loan, member, same ▸ here⟩
      · exact Or.inr ⟨other, older, here⟩
  · exact Or.imp_right fun ⟨other, older, here⟩ => ⟨other, List.mem_cons_of_mem _ older, here⟩

/-- A table in which one holder of a replica is missing at most. -/
theorem settles_of_table {table : ReplicaTable} {replica : Replica} (custody : trade.Custody)
    (real : id ≠ 0) (had : trade.replicas.Has replica)
    (fewer : ∀ other, table.Has other → trade.replicas.Has other)
    (others : ∀ other, trade.replicas.Has other → other ≠ replica → table.Has other) :
    Settles trade ((trade.desk.withReplicas table).unholding replica)
      (trade.withDesk (trade.desk.withReplicas table)) id := by
  have holders : ∀ other, trade.replicas.Has other ↔ other = replica ∨ table.Has other := by
    refine fun other => ⟨fun has => ?_, ?_⟩
    · by_cases here : other = replica
      · exact Or.inl here
      · exact Or.inr (others other has here)
    · rintro (rfl | has)
      · exact had
      · exact fewer other has
  refine settles_unholding had (ReplicaTable.backs_of_more holders id) fun same => ?_
  -- Holders are counted by replica, the block by its storage: storage has one replica.
  rw [Bool.eq_iff_iff, ReplicaTable.holds_iff, ReplicaTable.backs_iff]
  subst same
  constructor
  · rintro ⟨other, has, here⟩
    exact ⟨other, has, custody.shared.replica other replica (fewer other has) had here ▸ rfl⟩
  · rintro ⟨other, has, here⟩
    exact ⟨other, has,
      custody.shared.storage other replica (fewer other has) had here (here ▸ real) ▸ rfl⟩

theorem has_of_ne_removed {address : Nat} {entry : ReplicaEntry} {other : Replica}
    (custody : trade.Custody) (found : trade.replicas.entry? address = some entry)
    (had : trade.replicas.Has other) (different : other ≠ entry.replica) :
    (trade.replicas.remove address).Has other := by
  obtain ⟨member, here⟩ := ReplicaTable.mem_of_found found
  rcases had with ⟨entry', member', rfl⟩ | others
  · refine Or.inl ⟨entry', List.mem_filter.mpr ⟨member', bne_iff_ne.mpr fun same => ?_⟩, rfl⟩
    have equal := List.inj_on_of_nodup_map custody.shared.addresses member' member
      (same.trans here.symm)
    exact different (congrArg ReplicaEntry.replica equal)
  · exact Or.inr others

/-- Every shift that does not pass the drawn block on settles. -/
theorem settles_or_entry (custody : trade.Custody)
    (shift : Shift turn drawn trade traffic after) :
    (∀ id, id ≠ 0 → Settles trade traffic after id) ∨
      traffic = [] ∧ Entry turn drawn trade after := by
  cases shift with
  | gain after entry => exact Or.inr ⟨rfl, entry⟩
  | rest => exact Or.inl fun id _ => settles_of_same rfl rfl
  | burn => exact Or.inl fun id _ => settles_of_same rfl rfl
  | issue => exact Or.inl fun id _ => settles_of_same rfl rfl
  | clear => exact Or.inl fun id _ => settles_of_same rfl rfl
  | handIn block held => exact Or.inl fun id _ => settles_handIn held
  | discard block => exact Or.inl fun id _ => settles_discard block
  | strike base loan found =>
    have member : loan ∈ trade.loans := trade.desk.lender.loans.mem_of_at? found
    exact Or.inl fun id _ => settles_unpinning ⟨.pinned, Or.inl ⟨loan, member, rfl⟩⟩ rfl
      (pins_strike found id)
  | look loan view member positive same =>
    refine Or.inl fun id _ => settles_of_same ?_ rfl
    exact congrArg (fun pins => Block.copies id trade.rented + Bool.toNat pins +
      (trade.replicas.backs id).toNat) (pins_look member same id)
  | unlook view opened =>
    exact Or.inl fun id _ => settles_unpinning ⟨.pinned, Or.inr ⟨view, opened, rfl⟩⟩ rfl
      (pins_unlook opened id)
  | recount address references =>
    refine Or.inl fun id _ => settles_of_same (congrArg (_ + Bool.toNat ·) ?_) rfl
    exact ReplicaTable.backs_congr (fun replica => ReplicaTable.has_recount) id
  | handle replica has =>
    refine Or.inl fun id _ => settles_of_same (congrArg (_ + Bool.toNat ·) ?_) rfl
    exact ReplicaTable.backs_congr (ReplicaTable.has_cons_handle has) id
  | lease replica has =>
    refine Or.inl fun id _ => settles_of_same (congrArg (_ + Bool.toNat ·) ?_) rfl
    exact ReplicaTable.backs_congr (ReplicaTable.has_cons_lease has) id
  | remove address entry found =>
    exact Or.inl fun id real => settles_of_table custody real (ReplicaTable.has_of_found found)
      (fun other => ReplicaTable.has_of_remove) fun other => has_of_ne_removed custody found
  | unhandle replica held =>
    refine Or.inl fun id real => settles_of_table custody real (Or.inr (Or.inl held))
      (fun other had => had.imp_right (Or.imp_left List.mem_of_mem_erase)) fun other had here => ?_
    exact had.imp_right (Or.imp_left (List.mem_erase_of_ne here).mpr)
  | unlease replica held =>
    refine Or.inl fun id real => settles_of_table custody real (Or.inr (Or.inr held))
      (fun other had => had.imp_right (Or.imp_right List.mem_of_mem_erase)) fun other had here => ?_
    exact had.imp_right (Or.imp_right (List.mem_erase_of_ne here).mpr)

end Settles

/-! ### Passing a block on -/

/-- A block that is in hands and has no holder of a kind is out as before when the holder takes
it over. -/
theorem passed {rented : List Block} {block : Block} (held : block ∈ rented) (id : Nat)
    (was : Bool) (single : Block.copies id rented + was.toNat ≤ 1) :
    Block.copies id (rented.erase block) + (was || block.id == id).toNat =
      Block.copies id rented + was.toNat := by
  have erased := Block.copies_erase held id
  by_cases here : block.id = id
  · have one : 0 < Block.copies id rented := Block.copies_pos.mpr ⟨block, held, here⟩
    rw [if_pos here] at erased
    rw [beq_iff_eq.mpr here, Bool.or_true]
    cases was with
    | false => exact erased
    | true =>
      rw [Bool.toNat_true] at single
      omega
  · rw [if_neg here, Nat.add_zero] at erased
    rw [beq_eq_false_iff_ne.mpr here, Bool.or_false, erased]

section Entry

variable {turn : Turn} {drawn : Option Block} {trade after : Trade} {id : Nat}

theorem pins_of_enter (desk : Desk) {loan : Loan} {loans : LoanBook}
    (accepted : desk.lender.loans.enter loan = .ok loans) (id : Nat) :
    (desk.withLoans loans).lender.pins id = (desk.lender.pins id || loan.block.id == id) := by
  refine Lender.pins_of_more (fun other => ?_) id
  unfold Lender.Pins
  simp only [Desk.withLoans, LoanBook.mem_of_enter accepted, or_and_right, exists_or,
    exists_eq_left, or_assoc]

/-- An entry keeps how often a block is out, unless the block is the byte for it. -/
theorem out_of_entry (custody : trade.Custody) (entry : Entry turn drawn trade after)
    (real : id ≠ 0) :
    after.out id = trade.out id ∨ trade.issued < id ∧ after.out id = trade.out id + 1 := by
  have single := custody.single id real
  unfold stock out at single
  cases entry with
  | loan loan loans source held positive long accepted =>
    have passed := passed held id (trade.desk.lender.pins id) (by omega)
    rw [← pins_of_enter _ accepted] at passed
    exact Or.inl (congrArg (· + (trade.replicas.backs id).toNat) passed)
  | byte loan loans offered source zero accepted =>
    have sum : (trade.withDesk (trade.desk.issue.withLoans loans)).out id =
        Block.copies id trade.rented +
          (trade.desk.lender.pins id || loan.block.id == id).toNat +
            (trade.replicas.backs id).toNat := by
      rw [← pins_of_enter trade.desk accepted]
      rfl
    rw [sum, source]
    by_cases here : (trade.freshBlock turn 1 false).id = id
    · have later : trade.issued < id := here ▸ Nat.lt_succ_self _
      have nowhere := custody.stock_of_later later
      unfold stock out at nowhere
      have unpinned : trade.desk.lender.pins id = false := Bool.toNat_eq_zero.mp (by omega)
      refine Or.inr ⟨later, ?_⟩
      rw [beq_iff_eq.mpr here, Bool.or_true, out, unpinned]
      exact Nat.add_right_comm _ _ _
    · rw [beq_eq_false_iff_ne.mpr here, Bool.or_false]
      exact Or.inl rfl
  | replica replica source held fresh missing =>
    have passed := passed held id (trade.replicas.backs id) (by omega)
    rw [← ReplicaTable.backs_of_more (fun other => ReplicaTable.has_add)] at passed
    left
    show Block.copies id (trade.rented.erase replica.storage) +
      (trade.desk.lender.pins id).toNat + ((trade.replicas.add replica).backs id).toNat = _
    unfold out
    omega

end Entry

/-! ### Moves keep custody -/

section Moves

variable {turn : Turn} {drawn : Option Block} {trade mid after : Trade}
  {asked traffic : List Traffic}

/-- One new block at most, with a new identity or without bytes. -/
theorem Named.of_origin (named : trade.Named) (block : Block)
    (new : trade.issued < block.id ∨ block = Block.empty)
    (origin : ∀ other, after.Holds other → trade.Holds other ∨ other = block)
    (issued : trade.issued ≤ after.issued) (within : block.id ≤ after.issued) :
    after.Named := by
  have old : ∀ other, trade.Holds other → other.id = block.id → other = block := by
    intro other holds same
    rcases new with later | rfl
    · exact absurd (same ▸ named.issued other holds) (Nat.not_le_of_lt later)
    · exact named.empty other holds same
  refine ⟨fun first second holdsFirst holdsSecond same => ?_, fun other holds => ?_,
    fun other holds none => ?_⟩
  · rcases origin first holdsFirst with oldFirst | rfl <;>
      rcases origin second holdsSecond with oldSecond | rfl
    · exact named.unique first second oldFirst oldSecond same
    · exact old first oldFirst same
    · exact (old second oldSecond same.symm).symm
    · rfl
  · rcases origin other holds with older | rfl
    · exact Nat.le_trans (named.issued other older) issued
    · exact within
  · rcases origin other holds with older | rfl
    · exact named.empty other older none
    · rcases new with later | rfl
      · exact absurd none (Nat.ne_of_gt (Nat.zero_lt_of_lt later))
      · rfl

theorem Named.of_holds (named : trade.Named)
    (origin : ∀ other, after.Holds other → trade.Holds other)
    (issued : trade.issued ≤ after.issued) : after.Named :=
  named.of_origin Block.empty (Or.inr rfl) (fun other holds => Or.inl (origin other holds)) issued
    (Nat.zero_le _)

theorem Shared.of_has (shared : trade.Shared)
    (has : ∀ replica, after.replicas.Has replica → trade.replicas.Has replica)
    (issued : trade.issued ≤ after.issued)
    (addresses : (after.replicas.entries.map (·.replica.address)).Sublist
      (trade.replicas.entries.map (·.replica.address))) : after.Shared where
  replica first second hasFirst hasSecond :=
    shared.replica first second (has first hasFirst) (has second hasSecond)
  storage first second hasFirst hasSecond :=
    shared.storage first second (has first hasFirst) (has second hasSecond)
  numbered replica had := Nat.le_trans (shared.numbered replica (has replica had)) issued
  addresses := shared.addresses.sublist addresses

theorem copies_kept_amend (trade : Trade) (traffic : List Traffic) (aside : Aside) (id : Nat) :
    Block.copies id (trade.amend traffic aside).kept ≤
      Block.copies id trade.kept + Block.copies id (Traffic.restored traffic) := by
  rw [← Block.copies_append]
  exact Block.copies_le_of_sublist (Reserve.kept_passAll_sublist _ traffic) id

/-- Shifts that settle keep custody: what comes back to the reserve has been out. -/
theorem Custody.of_settles (custody : trade.Custody) (less : Less trade traffic after)
    (settles : ∀ id, id ≠ 0 → Settles trade traffic after id) (aside : Aside) :
    (after.amend traffic aside).Custody := by
  have same : after.kept = trade.kept := congrArg Reserve.kept less.reserve
  refine ⟨custody.named.of_holds (fun block holds => ?_) less.issued,
    custody.shared.of_has less.has less.issued less.addresses, fun id real => ?_, ?_,
    fun place block elsewhere stored => ?_, custody.apart.sublist (less.loans.map _),
    fun loan member => custody.bytes loan (less.loans.subset member), fun view member => ?_⟩
  · rcases holds_amend holds with holds | restored
    · exact less.holds holds
    · exact less.holds_restored restored
  · have kept := copies_kept_amend after traffic aside id
    rw [same] at kept
    have out := (settles id real).1
    have single := custody.single id real
    unfold stock at single ⊢
    show _ + after.out id ≤ 1
    omega
  · exact Reserve.capacity_of_kept_passAll
      (fun block member => custody.solid block (same ▸ member)) traffic
  · cases place with
    | kept =>
      rcases List.mem_append.mp ((Reserve.kept_passAll_sublist _ traffic).subset stored) with
        kept | restored
      · exact custody.pooled .kept block nofun (less.stores .kept block kept)
      · rcases less.restored block restored with rented | ⟨pooled, -⟩
        · exact custody.pooled .rented block nofun rented
        · exact pooled
    | rented => exact custody.pooled .rented block nofun (less.stores .rented block stored)
    | pinned => exact absurd rfl elsewhere
    | backing => exact custody.pooled .backing block nofun (less.stores .backing block stored)
  · rcases less.views view member with older | ⟨loan, lent, positive, same⟩
    · exact custody.views view older
    · exact same ▸ eq_true_of_ne_false (mt (custody.bytes loan lent).mpr positive)

theorem Custody.amend_nil (custody : trade.Custody) (aside : Aside) :
    (trade.amend [] aside).Custody := by
  have less : Less trade [] (trade.withDesk trade.desk) :=
    Shift.less_of_same (Nat.le_refl _) rfl rfl rfl rfl rfl
  exact custody.of_settles less (fun id _ => settles_of_same rfl rfl) aside

/-! ### Entries keep custody -/

theorem named_of_entry (custody : trade.Custody) (entry : Entry turn drawn trade after) :
    after.Named := by
  by_cases fresh : after.issued = trade.issued + 1
  · refine custody.named.of_origin (trade.freshBlock turn 1 false) (Or.inl (Nat.lt_succ_self _))
      (fun other holds => ?_) entry.issued_le (Nat.le_of_eq fresh.symm)
    exact (entry.holds holds).imp_right And.left
  · refine custody.named.of_holds (fun other holds => ?_) entry.issued_le
    exact (entry.holds holds).resolve_right fun origin => fresh origin.2.2

theorem shared_of_entry (custody : trade.Custody) (entry : Entry turn drawn trade after) :
    after.Shared := by
  have shared := custody.shared
  cases entry with
  | loan loan loans source held positive long accepted =>
    exact shared.of_has (fun _ had => had) (Nat.le_refl _) (List.Sublist.refl _)
  | byte loan loans offered source zero accepted =>
    exact shared.of_has (fun _ had => had) (Nat.le_succ _) (List.Sublist.refl _)
  | replica replica source held fresh missing =>
    have newest : ∀ other, trade.replicas.Has other → other.id ≠ replica.id := fun other had =>
      Nat.ne_of_lt (fresh ▸ Nat.lt_succ_of_le (shared.numbered other had))
    have vacant : ∀ other, trade.replicas.Has other → other.storage.id = replica.storage.id →
        replica.storage.id = 0 := by
      intro other had same
      by_contra real
      exact custody.not_backing held real ⟨other, had, same⟩
    refine ⟨fun first second hasFirst hasSecond same => ?_,
      fun first second hasFirst hasSecond same real => ?_, fun other had => ?_,
      List.nodup_cons.mpr ⟨fun member => ?_, shared.addresses⟩⟩
    · rcases ReplicaTable.has_add.mp hasFirst with rfl | oldFirst <;>
        rcases ReplicaTable.has_add.mp hasSecond with rfl | oldSecond
      · rfl
      · exact absurd same.symm (newest second oldSecond)
      · exact absurd same (newest first oldFirst)
      · exact shared.replica first second oldFirst oldSecond same
    · rcases ReplicaTable.has_add.mp hasFirst with rfl | oldFirst <;>
        rcases ReplicaTable.has_add.mp hasSecond with rfl | oldSecond
      · rfl
      · exact absurd (vacant second oldSecond same.symm) real
      · exact absurd (vacant first oldFirst same) (same ▸ real)
      · exact shared.storage first second oldFirst oldSecond same real
    · rcases ReplicaTable.has_add.mp had with rfl | older
      · exact Nat.le_of_eq fresh
      · exact Nat.le_succ_of_le (shared.numbered other older)
    · obtain ⟨entry, inEntries, same⟩ := List.mem_map.mp member
      have absent := List.find?_eq_none.mp missing entry inEntries
      exact absent (beq_iff_eq.mpr same)

theorem pooled_of_entry (custody : trade.Custody) (entry : Entry turn drawn trade after)
    (place : Place) (block : Block) (elsewhere : place ≠ .pinned)
    (stored : after.Stores place block) : block.pooled = true :=
  (entry.stores elsewhere stored).elim (custody.pooled .rented block nofun)
    (custody.pooled place block elsewhere)

theorem apart_of_entry (custody : trade.Custody) (entry : Entry turn drawn trade after) :
    (after.loans.map (·.block.id)).Nodup := by
  have entered : ∀ {desk : Desk} {loan : Loan} {loans : LoanBook},
      desk.lender.loans = trade.desk.lender.loans → desk.lender.loans.enter loan = .ok loans →
        (∀ other ∈ trade.loans, other.block.id ≠ loan.block.id) →
          (loans.toList.map (·.block.id)).Nodup := by
    intro desk loan loans same accepted different
    rw [same] at accepted
    have ids := (LoanBook.perm_of_enter accepted).map fun loan => loan.block.id
    refine ids.nodup_iff.mpr (List.nodup_cons.mpr ⟨fun member => ?_, custody.apart⟩)
    obtain ⟨other, inBook, here⟩ := List.mem_map.mp member
    exact different other inBook here
  cases entry with
  | loan loan loans source held positive long accepted =>
    refine entered rfl accepted fun other member same => ?_
    have real : loan.block.id ≠ 0 := by
      intro none
      have empty := custody.named.empty loan.block ⟨.rented, held⟩ none
      rw [empty] at long
      exact positive (Nat.le_zero.mp long)
    exact custody.not_pinned held real ⟨other.block, Or.inl ⟨other, member, rfl⟩, same⟩
  | byte loan loans offered source zero accepted =>
    refine entered rfl accepted fun other member => Nat.ne_of_lt ?_
    have old := custody.named.issued other.block ⟨.pinned, Or.inl ⟨other, member, rfl⟩⟩
    exact source ▸ Nat.lt_succ_of_le old
  | replica replica source held fresh missing => exact custody.apart

theorem bytes_of_entry (custody : trade.Custody) (entry : Entry turn drawn trade after) :
    ∀ loan ∈ after.loans, loan.length = 0 ↔ loan.block.pooled = false := by
  cases entry with
  | loan loan loans source held positive long accepted =>
    intro other member
    rcases (LoanBook.mem_of_enter accepted).mp member with rfl | older
    · have pooled := custody.pooled .rented other.block nofun held
      exact iff_of_false positive (pooled ▸ Bool.noConfusion)
    · exact custody.bytes other older
  | byte loan loans offered source zero accepted =>
    intro other member
    rcases (LoanBook.mem_of_enter accepted).mp member with rfl | older
    · exact iff_of_true zero (source ▸ rfl)
    · exact custody.bytes other older
  | replica replica source held fresh missing => exact custody.bytes

theorem Custody.of_entry (custody : trade.Custody) (entry : Entry turn drawn trade after) :
    after.Custody := by
  have same : after.kept = trade.kept := by cases entry <;> rfl
  have views : after.views = trade.views := by cases entry <;> rfl
  refine ⟨named_of_entry custody entry, shared_of_entry custody entry, fun id real => ?_, ?_,
    pooled_of_entry custody entry, apart_of_entry custody entry, bytes_of_entry custody entry,
    views ▸ custody.views⟩
  · have single := custody.single id real
    unfold stock at single ⊢
    rw [same]
    rcases out_of_entry custody entry real with equal | ⟨later, one⟩
    · rw [equal]
      exact single
    · have nowhere := custody.stock_of_later later
      unfold stock at nowhere
      omega
  · rw [same]
    exact custody.solid

/-! ### Draws keep custody -/

theorem out_hold (trade : Trade) (block : Block) (id : Nat) :
    (trade.hold block).out id = trade.out id + if block.id = id then 1 else 0 := by
  have copies := Block.copies_cons id block trade.rented
  show Block.copies id (block :: trade.rented) + (trade.desk.lender.pins id).toNat +
    (trade.replicas.backs id).toNat = _
  rw [copies, out]
  omega

theorem single_of_draw (custody : trade.Custody) (draw : Draw turn trade asked drawn mid)
    (aside : Aside) {id : Nat} (real : id ≠ 0) : (mid.amend asked aside).stock id ≤ 1 := by
  have single := custody.single id real
  have kept := copies_kept_amend mid asked aside id
  rw [draw.restored_eq_nil] at kept
  have kept : Block.copies id (mid.amend asked aside).kept ≤ Block.copies id mid.kept := kept
  have sum : (mid.amend asked aside).stock id =
      Block.copies id (mid.amend asked aside).kept + mid.out id := rfl
  rw [sum]
  cases draw with
  | idle => exact Nat.le_trans (Nat.add_le_add_right kept _) single
  | miss length => exact Nat.le_trans (Nat.add_le_add_right kept _) single
  | empty =>
    rw [out_hold, if_neg (show Block.empty.id ≠ id from Ne.symm real)]
    exact Nat.le_trans (Nat.add_le_add_right kept _) single
  | kept length block rest taken =>
    have left : ((trade.hold block).amend [.request length] aside).kept = rest :=
      (Reserve.request_of_some taken).2
    have parts : Block.copies id trade.kept = Block.copies id (block :: rest) :=
      (Reserve.perm_of_takeFirst taken).countP_eq _
    rw [Block.copies_cons] at parts
    unfold stock at single
    rw [left, out_hold]
    omega
  | fresh length asked positive short offered requests =>
    rw [out_hold]
    by_cases here : (trade.freshBlock turn length true).id = id
    · have later : trade.issued < id := here ▸ Nat.lt_succ_self trade.issued
      have nowhere := custody.stock_of_later later
      rw [if_pos here]
      exact Nat.succ_le_succ (Nat.le_trans (Nat.add_le_add_right kept _) (Nat.le_of_eq nowhere))
    · rw [if_neg here]
      exact Nat.le_trans (Nat.add_le_add_right kept _) single

theorem named_of_draw (custody : trade.Custody) (draw : Draw turn trade asked drawn mid)
    (aside : Aside) : (mid.amend asked aside).Named := by
  have origin : ∀ block, (mid.amend asked aside).Holds block → mid.Holds block := by
    intro block amended
    refine (holds_amend amended).resolve_right fun restored => ?_
    rw [draw.restored_eq_nil] at restored
    cases restored
  refine Named.of_holds ?_ origin (Nat.le_refl _)
  have named := custody.named
  cases draw with
  | idle => exact named
  | miss length => exact named
  | empty =>
    exact named.of_origin Block.empty (Or.inr rfl) (fun block holds => (holds_hold holds).symm)
      (Nat.le_refl _) (Nat.zero_le _)
  | kept length block rest taken =>
    refine named.of_holds (fun other holds => ?_) (Nat.le_refl _)
    rcases holds_hold holds with rfl | older
    · exact ⟨.kept, Reserve.mem_of_takeFirst taken⟩
    · exact older
  | fresh length asked positive short offered requests =>
    exact named.of_origin (trade.freshBlock turn length true) (Or.inl (Nat.lt_succ_self _))
      (fun block holds => (holds_hold holds).symm) (Nat.le_succ _) (Nat.le_refl _)

theorem Custody.of_draw (custody : trade.Custody) (draw : Draw turn trade asked drawn mid)
    (aside : Aside) : (mid.amend asked aside).Custody := by
  have kept : (mid.amend asked aside).kept.Sublist trade.kept := by
    have sublist := Reserve.kept_passAll_sublist mid.desk.lender.reserve asked
    rw [draw.restored_eq_nil, List.append_nil] at sublist
    cases draw <;> exact sublist
  have pooled : ∀ block ∈ mid.rented, block.pooled = true := by
    have rented := fun block => custody.pooled .rented block nofun
    cases draw with
    | idle => exact rented
    | miss length => exact rented
    | empty => exact List.forall_mem_cons.mpr ⟨rfl, rented⟩
    | kept length block rest taken =>
      have member := Reserve.mem_of_takeFirst taken
      exact List.forall_mem_cons.mpr ⟨custody.pooled .kept block nofun member, rented⟩
    | fresh length asked positive short offered requests =>
      exact List.forall_mem_cons.mpr ⟨rfl, rented⟩
  refine ⟨named_of_draw custody draw aside, ?_, fun id => single_of_draw custody draw aside,
    fun block member => custody.solid block (kept.subset member),
    fun place block elsewhere stored => ?_, ?_, ?_, ?_⟩
  · have issued := draw.issued_le
    cases draw <;> exact custody.shared.of_has (fun _ had => had) issued (List.Sublist.refl _)
  · cases place with
    | kept => exact custody.pooled .kept block nofun (kept.subset stored)
    | rented => exact pooled block stored
    | pinned => exact absurd rfl elsewhere
    | backing => cases draw <;> exact custody.pooled .backing block nofun stored
  · cases draw <;> exact custody.apart
  · cases draw <;> exact custody.bytes
  · cases draw <;> exact custody.views

/-! ### Runs keep custody -/

theorem Custody.of_shift (custody : trade.Custody)
    (shift : Shift turn drawn trade traffic after) (aside : Aside) :
    (after.amend traffic aside).Custody := by
  rcases settles_or_entry custody shift with settles | ⟨rfl, entry⟩
  · rcases shift.less_or_entry with less | ⟨rfl, entry⟩
    · exact custody.of_settles less settles aside
    · exact (custody.of_entry entry).amend_nil aside
  · exact (custody.of_entry entry).amend_nil aside

theorem Custody.of_shifts (custody : trade.Custody)
    (shifts : Shifts turn drawn trade traffic after) : after.Custody := by
  induction shifts with
  | done => exact custody
  | more aside first others inductionHypothesis =>
    exact inductionHypothesis (custody.of_shift first aside)

theorem Custody.of_moves (custody : trade.Custody) (moves : Moves turn trade traffic after) :
    after.Custody := by
  cases moves with
  | intro aside draw shifts => exact (custody.of_draw draw aside).of_shifts shifts

end Moves

theorem custody_opened (policy : Policy) (arena : Arena) : (opened policy arena).Custody := by
  have nowhere := not_holds_opened policy arena
  have none : ∀ replica, ¬(opened policy arena).replicas.Has replica := fun replica had =>
    nowhere replica.storage ⟨.backing, replica, had, rfl⟩
  refine ⟨⟨fun first _ holds => absurd holds (nowhere first),
      fun block holds => absurd holds (nowhere block),
      fun block holds => absurd holds (nowhere block)⟩,
    ⟨fun first _ had => absurd had (none first), fun first _ had => absurd had (none first),
      fun replica had => absurd had (none replica), List.nodup_nil⟩,
    fun id _ => ?_, nofun, fun place block _ stored => absurd ⟨place, stored⟩ (nowhere block),
    List.nodup_nil, nofun, nofun⟩
  exact Nat.le_trans (Nat.le_of_eq (stock_eq_zero fun block holds _ => nowhere block holds))
    (Nat.zero_le 1)

theorem Custody.ready {trade : Trade} (custody : trade.Custody) (place : Nat) :
    (trade.ready place).Custody :=
  custody.amend_nil ⟨trade.desk.arena.announce [place], trade.replicas.filled, trade.desk.journal⟩

/-- The record holds no block. -/
theorem Custody.withRecord {trade : Trade} (custody : trade.Custody) (record : Record) :
    ({ trade with record } : Trade).Custody :=
  ⟨⟨custody.named.unique, custody.named.issued, custody.named.empty⟩,
    ⟨custody.shared.replica, custody.shared.storage, custody.shared.numbered,
      custody.shared.addresses⟩,
    custody.single, custody.solid, custody.pooled, custody.apart, custody.bytes,
    custody.views⟩

theorem Custody.take {trade : Trade} (custody : trade.Custody) (turn : Turn) :
    (trade.take turn).Custody := by
  have moves := trade.moves_take turn
  exact ((custody.ready turn.place).of_moves moves).withRecord _

theorem Custody.run {trade : Trade} (custody : trade.Custody) (turns : List Turn) :
    (trade.run turns).Custody := by
  induction turns generalizing trade with
  | nil => exact custody
  | cons turn rest inductionHypothesis => exact inductionHypothesis (custody.take turn)

end Trade

end MemoryLending
