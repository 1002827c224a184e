/-
This file counts the sensor's own buffers among the blocks that are out of a lender's hands. No
lender knows these buffers, but the heap has placed them like any other blocks and keeps every
later block away from them. So they are treated as if somebody had rented them before the lender
opened: then the rules about blocks say that no loan, no replica and no kept block ever meets them.
-/

import Mathlib.Data.List.Pairwise
import MemoryLending.Proofs.Callbacks
import MemoryLending.Proofs.Upkeep

namespace MemoryLending

namespace Sensor

/-- The sensor's own buffers, as blocks that are rented for good. -/
def premises (buffers : List Block) : List Block :=
  buffers.map fun buffer => { buffer with pooled := true }

/-- Buffers that the heap has placed apart, before the last address, and not at zero. -/
def Placed (buffers : List Block) : Prop :=
  buffers.Pairwise (fun first second => Disjoint first.range second.range) ∧
    ∀ buffer ∈ buffers, buffer.address ≠ 0 ∧ buffer.address + buffer.capacity < Word.limit

instance decidablePlaced (buffers : List Block) : Decidable (Placed buffers) :=
  have (first second : Block) : Decidable (Disjoint first.range second.range) :=
    inferInstanceAs (Decidable (Disjoint (Set.Ico _ _) (Set.Ico _ _)))
  inferInstanceAs (Decidable (_ ∧ _))

theorem placed_premises {buffers : List Block} (placed : Placed buffers) :
    Placed (premises buffers) := by
  refine ⟨List.pairwise_map.mpr placed.1, fun block member => ?_⟩
  obtain ⟨buffer, here, rfl⟩ := List.mem_map.mp member
  exact placed.2 buffer here

theorem length_placeBuffers (arena : Arena) (count index : Nat) :
    (placeBuffers arena count index).2.length = count := by
  induction count generalizing arena index with
  | zero => rfl
  | succ count inductionHypothesis => exact congrArg (· + 1) (inductionHypothesis _ _)

theorem mem_placeBuffers {arena : Arena} {count index : Nat} {buffer : Block}
    (member : buffer ∈ (placeBuffers arena count index).2) :
    buffer.capacity = bufferLength ∧ arena.identities < buffer.id ∧
      buffer.id ≤ arena.identities + count := by
  induction count generalizing arena index with
  | zero => cases member
  | succ count inductionHypothesis =>
    rcases List.mem_cons.mp member with rfl | later
    · exact ⟨rfl, Nat.lt_succ_self _, Nat.add_le_add_left (Nat.le_add_left 1 count) _⟩
    · obtain ⟨capacity, above, below⟩ := inductionHypothesis later
      have issued := arena.identities_place bufferLength
      simp only [Arena.write, issued] at above below
      exact ⟨capacity, by omega, by omega⟩

/-- No two buffers have the same identity. -/
theorem nodup_placeBuffers (arena : Arena) (count index : Nat) :
    ((placeBuffers arena count index).2.map Block.id).Nodup := by
  induction count generalizing arena index with
  | zero => exact List.nodup_nil
  | succ count inductionHypothesis =>
    refine List.nodup_cons.mpr ⟨fun member => ?_, inductionHypothesis _ _⟩
    obtain ⟨buffer, later, same⟩ := List.mem_map.mp member
    have above := (mem_placeBuffers later).2.1
    have issued := arena.identities_place bufferLength
    have first : buffer.id = arena.identities + 1 := same
    simp only [Arena.write, issued] at above
    omega

end Sensor

namespace Trade

section Rented

variable (policy : Policy) (arena : Arena) {blocks : List Block}

/-- A trade that opens while blocks are rented has only these. -/
theorem mem_of_holds_rented {block : Block}
    (holds : Holds ⟨(opened policy arena).desk, blocks, []⟩ block) : block ∈ blocks := by
  obtain ⟨place, stored⟩ := holds
  cases place with
  | rented => exact stored
  | kept => cases stored
  | pinned => exact absurd ⟨.pinned, stored⟩ (not_holds_opened policy arena block)
  | backing => exact absurd ⟨.backing, stored⟩ (not_holds_opened policy arena block)

variable (distinct : (blocks.map Block.id).Nodup)
  (issued : ∀ block ∈ blocks, 0 < block.id ∧ block.id ≤ arena.identities)

include distinct issued in
theorem custody_rented (pooled : ∀ block ∈ blocks, block.pooled = true) :
    (Trade.mk (opened policy arena).desk blocks []).Custody := by
  have mem {block : Block} := @mem_of_holds_rented policy arena blocks block
  have opened := custody_opened policy arena
  refine
    { named :=
        { unique := fun first second holds holds' same =>
            List.inj_on_of_nodup_map distinct (mem holds) (mem holds') same
          issued := fun block holds => (issued block (mem holds)).2
          empty := fun block holds none => absurd none (Nat.ne_of_gt (issued block (mem holds)).1) }
      shared := ⟨opened.shared.replica, opened.shared.storage, opened.shared.numbered,
        opened.shared.addresses⟩
      single := fun id _ => ?_
      solid := nofun
      pooled := fun place block _ stored => pooled block (mem ⟨place, stored⟩)
      apart := List.nodup_nil
      bytes := nofun
      views := nofun }
  have once : Block.copies id blocks ≤ 1 := by
    show blocks.countP ((· == id) ∘ Block.id) ≤ 1
    rw [← List.countP_map]
    exact List.nodup_iff_count_le_one.mp distinct id
  have elsewhere : (Trade.opened policy arena).stock id = 0 :=
    stock_eq_zero fun block holds => absurd holds (not_holds_opened policy arena block)
  unfold stock out at elsewhere ⊢
  show Block.copies id (Trade.opened policy arena).kept + (Block.copies id blocks +
    ((Trade.opened policy arena).desk.lender.pins id).toNat +
      ((Trade.opened policy arena).replicas.backs id).toNat) ≤ 1
  omega

include distinct issued in
/-- A lender that opens while blocks are rented is in order, if these are apart. -/
theorem housed_rented (pooled : ∀ block ∈ blocks, block.pooled = true)
    (placed : Sensor.Placed blocks)
    (short : ∀ block ∈ blocks, block.capacity ≤ Word.longestBlock) :
    (Trade.mk (opened policy arena).desk blocks []).Housed := by
  have mem {block : Block} := @mem_of_holds_rented policy arena blocks block
  have accounted := accounted_opened policy arena
  have marked := (roomy_opened policy arena).marked
  have symmetric : Std.Symm fun first second : Block => Disjoint first.range second.range :=
    ⟨fun _ _ apart => apart.symm⟩
  refine
    { tended :=
        { roomy :=
            { custody := custody_rented policy arena distinct issued pooled
              marked := ⟨marked.filled, marked.issued⟩
              spaced :=
                { spread := fun first second holds holds' different => ?_
                  bounded := fun block holds => Nat.le_of_lt (placed.2 block (mem holds)).2
                  lies := nofun
                  apart := List.Pairwise.nil }
              obliging := nofun }
          accounted :=
            { fits := fun block holds => (placed.2 block (mem holds)).2
              within := nofun
              sound := accounted.sound
              balanced := accounted.balanced } }
      referred := nofun
      present := fun block holds _ => (placed.2 block (mem holds)).1
      short := fun block holds => short block (mem holds) }
  exact placed.1.forall (mem holds) (mem holds') different

end Rented

/-- A lender that opens beside a sensor whose buffers are apart is in order. -/
theorem housed_premises (policy : Policy) {arena : Arena} {count : Nat}
    (placed : Sensor.Placed (Sensor.placeBuffers arena count 0).2) :
    (Trade.mk (opened policy (Sensor.placeBuffers arena count 0).1).desk
      (Sensor.premises (Sensor.placeBuffers arena count 0).2) []).Housed := by
  have issued := Action.identities_placeBuffers arena count 0
  refine housed_rented policy _ ?_ (fun block member => ?_) (fun block member => ?_)
    (Sensor.placed_premises placed) fun block member => ?_
  · rw [Sensor.premises, List.map_map]
    exact Sensor.nodup_placeBuffers arena count 0
  all_goals obtain ⟨buffer, here, rfl⟩ := List.mem_map.mp member
  · obtain ⟨-, above, below⟩ := Sensor.mem_placeBuffers here
    exact ⟨Nat.lt_of_le_of_lt (Nat.zero_le _) above, issued.symm ▸ below⟩
  · rfl
  · exact (Sensor.mem_placeBuffers here).1.trans_le (by decide)

end Trade

end MemoryLending
