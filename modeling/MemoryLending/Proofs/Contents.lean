/-
This file says what memory shows. A memory is the history of its writes and bytes come as runs, so
that nothing is written out; here both are read one byte at a time. What a range shows is the byte
at each of its addresses, a write changes the bytes of its range and no other one, and a copy
brings the bytes of one range to another one, as they were before it.
-/

import Mathlib.Data.List.GetD
import Mathlib.Order.CompletePartialOrder
import Mathlib.Order.Interval.Set.Disjoint
import MemoryLending.Arena

namespace MemoryLending

/-! ### Bytes one by one -/

theorem Run.getD_toList (run : Run) {index : Nat} (within : index < run.length) :
    run.toList.getD index 0 = run.byte index := by
  unfold toList
  rw [List.getD_eq_getElem?_getD, List.getElem?_map, List.getElem?_range within]
  rfl

namespace Bytes

theorem toList_cons (run : Run) (rest : Bytes) :
    toList (run :: rest) = run.toList ++ toList rest := rfl

theorem toList_append (left right : Bytes) :
    toList (left ++ right) = toList left ++ toList right :=
  List.flatMap_append

end Bytes

namespace Memory

/-- The bytes of a range one by one. -/
def bytes (memory : Memory) (start length : Nat) : List UInt8 :=
  (List.range length).map fun index => memory.byte (start + index)

theorem length_bytes (memory : Memory) (start length : Nat) :
    (memory.bytes start length).length = length := by
  unfold bytes
  rw [List.length_map, List.length_range]

theorem getElem?_bytes (memory : Memory) {start length index : Nat} (within : index < length) :
    (memory.bytes start length)[index]? = some (memory.byte (start + index)) := by
  unfold bytes
  rw [List.getElem?_map, List.getElem?_range within]
  rfl

/-- What a range shows depends on its bytes and on nothing else. -/
theorem bytes_congr {first second : Memory} {start start' length : Nat}
    (same : ∀ index, index < length → first.byte (start + index) = second.byte (start' + index)) :
    first.bytes start length = second.bytes start' length :=
  List.map_congr_left fun index member => same index (List.mem_range.mp member)

theorem byte_of_bytes {first second : Memory} {start start' length : Nat}
    (same : first.bytes start length = second.bytes start' length) {index : Nat}
    (within : index < length) : first.byte (start + index) = second.byte (start' + index) := by
  have here := congrArg (·[index]?) same
  rw [first.getElem?_bytes within, second.getElem?_bytes within] at here
  exact Option.some.inj here

theorem bytes_add (memory : Memory) (start first second : Nat) :
    memory.bytes start (first + second) =
      memory.bytes start first ++ memory.bytes (start + first) second := by
  unfold bytes
  rw [List.range_add, List.map_append, List.map_map]
  congr 2
  funext index
  exact congrArg memory.byte (Nat.add_assoc start first index).symm

theorem drop_take_bytes (memory : Memory) (address : Nat) {start count length : Nat}
    (inside : start + count ≤ length) :
    ((memory.bytes address length).drop start).take count =
      memory.bytes (address + start) count := by
  obtain ⟨rest, rfl⟩ := Nat.exists_eq_add_of_le inside
  rw [Nat.add_assoc, bytes_add, bytes_add, List.drop_left' (length_bytes _ _ _),
    List.take_left' (length_bytes _ _ _)]

/-! ### Reading -/

theorem byte_cons (patch : Patch) (older : List Patch) (finish address : Nat) :
    byte ⟨patch :: older, finish⟩ address =
      if patch.covers address then patch.byte address else byte ⟨older, finish⟩ address := by
  unfold byte
  rw [List.find?_cons]
  cases patch.covers address <;> rfl

theorem bytes_of_covered (patch : Patch) (older : List Patch) (finish : Nat) {start length : Nat}
    (inside : patch.start ≤ start) (ends : start + length ≤ patch.finish) :
    (patch.run.window (start - patch.start) length).toList =
      bytes ⟨patch :: older, finish⟩ start length := by
  refine List.map_congr_left fun index member => ?_
  have within : index < length := List.mem_range.mp member
  have covered : patch.covers (start + index) = true := by
    unfold Patch.finish at ends
    rw [Patch.covers_iff]
    omega
  rw [byte_cons, if_pos covered, Run.byte_window]
  exact congrArg patch.run.byte (Nat.sub_add_comm inside).symm

theorem bytes_of_uncovered (patch : Patch) (older : List Patch) (finish : Nat)
    {start length : Nat}
    (outside : ∀ address, start ≤ address → address < start + length →
      address < patch.start ∨ patch.finish ≤ address) :
    bytes ⟨older, finish⟩ start length = bytes ⟨patch :: older, finish⟩ start length := by
  refine bytes_congr fun index within => ?_
  have outside := outside (start + index) (by omega) (by omega)
  have uncovered : ¬patch.covers (start + index) = true := by
    unfold Patch.finish at outside
    rw [Patch.covers_iff]
    omega
  rw [byte_cons, if_neg uncovered]

/-- Cutting a range out of a history gives the bytes of the range. -/
theorem toList_cutFrom (patches : List Patch) (finish start length : Nat) :
    (cutFrom patches start length).toList = bytes ⟨patches, finish⟩ start length := by
  induction patches generalizing start length with
  | nil =>
    unfold cutFrom
    split
    · rename_i zero
      subst zero
      rfl
    · rw [Bytes.toList_cons]
      refine (List.append_nil _).trans (List.map_congr_left fun index _ => ?_)
      exact Run.byte_fill 0 length index
  | cons patch older inductionHypothesis =>
    unfold cutFrom
    dsimp only
    by_cases zero : length = 0
    · subst zero
      rfl
    rw [if_neg zero]
    by_cases beside : min (start + length) patch.finish ≤ max start patch.start
    · rw [if_pos beside, inductionHypothesis]
      exact bytes_of_uncovered patch older finish fun address _ _ => by omega
    · -- What the latest patch gives lies between what the older ones give.
      rw [if_neg beside]
      generalize low_eq : max start patch.start = low at beside ⊢
      generalize high_eq : min (start + length) patch.finish = high at beside ⊢
      have lower := bytes_add ⟨patch :: older, finish⟩ start (low - start) (start + length - low)
      have upper := bytes_add ⟨patch :: older, finish⟩ low (high - low) (start + length - high)
      rw [show low - start + (start + length - low) = length by omega,
        show start + (low - start) = low by omega] at lower
      rw [show high - low + (start + length - high) = start + length - low by omega,
        show low + (high - low) = high by omega] at upper
      rw [Bytes.toList_append, Bytes.toList_cons, inductionHypothesis, inductionHypothesis,
        bytes_of_uncovered patch older finish fun address _ _ => by omega,
        bytes_of_covered patch older finish (by omega) (by omega),
        bytes_of_uncovered patch older finish fun address _ _ => by omega, lower, upper]

theorem toList_cut (memory : Memory) (start length : Nat) :
    (memory.cut start length).toList = memory.bytes start length :=
  toList_cutFrom memory.patches memory.finish start length

/-! ### Writing -/

/-- A write changes the bytes of its range and no other one. -/
theorem byte_put (memory : Memory) (start : Nat) (written : Bytes) (address : Nat) :
    (memory.put start written).byte address =
      if start ≤ address ∧ address < start + written.size then
        written.toList.getD (address - start) 0
      else memory.byte address := by
  induction written generalizing memory start with
  | nil =>
    have outside : ¬(start ≤ address ∧ address < start + Bytes.size []) :=
      fun inside => Nat.not_lt_of_le inside.1 inside.2
    rw [if_neg outside]
    rfl
  | cons run rest inductionHypothesis =>
    show ((memory.putRun start run).put (start + run.length) rest).byte address = _
    rw [inductionHypothesis, byte_putRun, Bytes.toList_cons, Bytes.size]
    have length := run.length_toList
    by_cases inRest : start + run.length ≤ address ∧ address < start + run.length + Bytes.size rest
    · rw [if_pos inRest, if_pos (by omega), List.getD_append_right _ _ _ _ (by omega), length,
        Nat.sub_sub]
    · rw [if_neg inRest]
      by_cases inRun : start ≤ address ∧ address < start + run.length
      · rw [if_pos inRun, if_pos (by omega), List.getD_append _ _ _ _ (by omega),
          Run.getD_toList _ (by omega)]
      · rw [if_neg inRun, if_neg (by omega)]

/-- The range of a write shows what was written. -/
theorem bytes_put (memory : Memory) (start : Nat) (written : Bytes) :
    (memory.put start written).bytes start written.size = written.toList := by
  refine List.ext_getElem? fun index => ?_
  by_cases within : index < written.size
  · have short : index < written.toList.length := written.length_toList.symm ▸ within
    rw [getElem?_bytes _ within, byte_put, if_pos (by omega), Nat.add_sub_cancel_left,
      List.getD_eq_getElem _ _ short, List.getElem?_eq_getElem short]
  · have size := length_bytes (memory.put start written) start written.size
    have long := written.length_toList
    rw [List.getElem?_eq_none (by omega), List.getElem?_eq_none (by omega)]

/-- A write inside a range shows there, and what is before and behind it stays as it was. -/
theorem bytes_put_inside (memory : Memory) {start length offset : Nat} {written : Bytes}
    (inside : offset + written.size ≤ length) :
    (memory.put (start + offset) written).bytes start length =
      (memory.bytes start length).take offset ++ written.toList ++
        (memory.bytes start length).drop (offset + written.size) := by
  obtain ⟨rest, rfl⟩ := Nat.exists_eq_add_of_le inside
  have before : (memory.put (start + offset) written).bytes start offset =
      memory.bytes start offset :=
    bytes_congr fun index within => (byte_put _ _ _ _).trans (if_neg (by omega))
  have behind : (memory.put (start + offset) written).bytes (start + (offset + written.size)) rest =
      memory.bytes (start + (offset + written.size)) rest :=
    bytes_congr fun index within => (byte_put _ _ _ _).trans (if_neg (by omega))
  have front : (memory.bytes start (offset + written.size + rest)).take offset =
      memory.bytes start offset := by
    rw [Nat.add_assoc, bytes_add]
    exact List.take_left' (length_bytes _ _ _)
  have back : (memory.bytes start (offset + written.size + rest)).drop (offset + written.size) =
      memory.bytes (start + (offset + written.size)) rest := by
    rw [bytes_add]
    exact List.drop_left' (length_bytes _ _ _)
  rw [front, back, bytes_add, bytes_add, before, behind, bytes_put]

/-- A copy brings the bytes of one range to another one, as they were before it. -/
theorem byte_copy (memory : Memory) (source target length address : Nat) :
    (memory.copy source target length).byte address =
      if target ≤ address ∧ address < target + length then
        memory.byte (source + (address - target))
      else memory.byte address := by
  have size : (memory.cut source length).size = length := by
    rw [← Bytes.length_toList, toList_cut, length_bytes]
  unfold copy
  rw [byte_put, size, toList_cut]
  by_cases inside : target ≤ address ∧ address < target + length
  · have within : address - target < length := by omega
    rw [if_pos inside, if_pos inside, List.getD_eq_getElem?_getD, memory.getElem?_bytes within]
    rfl
  · rw [if_neg inside, if_neg inside]

/-- The target of a copy shows what the source showed. -/
theorem bytes_copy (memory : Memory) (source target length : Nat) :
    (memory.copy source target length).bytes target length = memory.bytes source length := by
  refine bytes_congr fun index within => ?_
  rw [byte_copy, if_pos (by omega), Nat.add_sub_cancel_left]

/-- A range that does not meet the target shows the same after a copy. -/
theorem bytes_copy_apart (memory : Memory) (source target length : Nat) {start size : Nat}
    (apart : Disjoint (Set.Ico start (start + size)) (Set.Ico target (target + length))) :
    (memory.copy source target length).bytes start size = memory.bytes start size := by
  refine bytes_congr fun index within => (byte_copy _ _ _ _ _).trans (if_neg fun inside => ?_)
  exact Set.disjoint_left.mp apart ⟨by omega, by omega⟩ inside

/-- Where two ranges show the same, a copy from one to the other changes nothing. -/
theorem byte_copy_of_same {memory : Memory} {source target length : Nat}
    (same : memory.bytes target length = memory.bytes source length) (address : Nat) :
    (memory.copy source target length).byte address = memory.byte address := by
  rw [byte_copy]
  by_cases inside : target ≤ address ∧ address < target + length
  · obtain ⟨index, rfl⟩ := Nat.exists_eq_add_of_le inside.1
    rw [if_pos inside, Nat.add_sub_cancel_left]
    exact (byte_of_bytes same (by omega)).symm
  · rw [if_neg inside]

end Memory

end MemoryLending
