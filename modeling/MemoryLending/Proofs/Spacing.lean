/-
This file keeps blocks apart in memory. The heap promises that a fresh block meets no block that
still is somewhere, be it on loan, looked at, storage, in hands or kept. Then no two blocks ever
meet, and a loan never fails for want of room: the book checks its two neighbours, and neither of
them can be in the way, whatever was asked for, given back, kept and lent again before.
-/

import Mathlib.Order.CompletePartialOrder
import Mathlib.Order.Interval.Set.Disjoint
import MemoryLending.Proofs.Impact
import MemoryLending.Proofs.Ledger
import MemoryLending.Proofs.Safekeeping

namespace MemoryLending

/-! ### Ranges -/

/-- The addresses of a block. -/
def Block.range (block : Block) : Set Nat :=
  Set.Ico block.address (block.address + block.capacity)

theorem Block.range_empty : Block.empty.range = ∅ := Set.Ico_self 0

/-- The addresses of the fresh block that a turn may need. -/
def Turn.range (turn : Turn) : Set Nat :=
  Set.Ico turn.place (turn.place + turn.deed.freshLength)

instance decidableDisjointIco (low high low' high' : Nat) :
    Decidable (Disjoint (Set.Ico low high) (Set.Ico low' high')) :=
  decidable_of_iff _ Set.Ico_disjoint_Ico.symm

instance decidableMeets (block : Block) (turn : Turn) :
    Decidable (Disjoint block.range turn.range) :=
  inferInstanceAs (Decidable (Disjoint (Set.Ico _ _) (Set.Ico _ _)))

/-- The replicas that somebody holds. -/
def ReplicaTable.held (table : ReplicaTable) : List Replica :=
  table.entries.map ReplicaEntry.replica ++ table.handles ++ table.leases

theorem ReplicaTable.mem_held {table : ReplicaTable} {replica : Replica} :
    replica ∈ table.held ↔ table.Has replica := by
  unfold held Has
  simp only [List.mem_append, List.mem_map, or_assoc]

/-- A loan lies in its block, and the block has an address of its own. -/
def Loan.Lies (loan : Loan) : Prop :=
  loan.length ≤ loan.block.capacity ∧ loan.block.capacity ≠ 0

/-- Of two loans in blocks that do not meet, one stands before the other. -/
theorem Loan.precedes_or {first second : Loan} (lies : first.Lies) (lies' : second.Lies)
    (apart : Disjoint first.block.range second.block.range) :
    first.Precedes second ∨ second.Precedes first := by
  obtain ⟨short, solid⟩ := lies
  obtain ⟨short', solid'⟩ := lies'
  unfold Block.range at apart
  rw [Set.Ico_disjoint_Ico] at apart
  unfold Precedes base
  omega

namespace Trade

/-! ### What the heap promises -/

/-- The blocks that are anywhere. -/
def blocks (trade : Trade) : List Block :=
  trade.kept ++ trade.rented ++ trade.loans.map Loan.block ++ trade.views.map View.block ++
    trade.replicas.held.map Replica.storage

theorem mem_blocks {trade : Trade} {block : Block} :
    block ∈ trade.blocks ↔ trade.Holds block := by
  unfold blocks
  simp only [List.mem_append, List.mem_map, ReplicaTable.mem_held]
  constructor
  · rintro ((((kept | rented) | lent) | viewed) | backing)
    · exact ⟨.kept, kept⟩
    · exact ⟨.rented, rented⟩
    · exact ⟨.pinned, Or.inl lent⟩
    · exact ⟨.pinned, Or.inr viewed⟩
    · exact ⟨.backing, backing⟩
  · rintro ⟨_ | _ | _ | _, stored⟩
    · exact Or.inl (Or.inl (Or.inl (Or.inl stored)))
    · exact Or.inl (Or.inl (Or.inl (Or.inr stored)))
    · exact Or.inl (stored.imp_left Or.inr)
    · exact Or.inr stored

/-- Where the heap places a block, there is no other block. -/
def Clear (trade : Trade) (turn : Turn) : Prop :=
  trade.Places turn → ∀ block, trade.Holds block → Disjoint block.range turn.range

/-- The heap places a block where no other block is, and before the end of memory. -/
def Spares (trade : Trade) (turn : Turn) : Prop :=
  trade.Clear turn ∧
    (trade.Places turn → turn.place + turn.deed.freshLength ≤ Word.limit)

instance decidablePlaces (trade : Trade) (turn : Turn) : Decidable (trade.Places turn) :=
  inferInstanceAs (Decidable (_ = []))

instance decidableClear (trade : Trade) (turn : Turn) : Decidable (trade.Clear turn) :=
  decidable_of_iff
    (trade.Places turn → ∀ block ∈ trade.blocks, Disjoint block.range turn.range)
    (imp_congr_right fun _ => forall_congr' fun _ => imp_congr_left mem_blocks)

instance decidableSpares (trade : Trade) (turn : Turn) : Decidable (trade.Spares turn) :=
  inferInstanceAs (Decidable (_ ∧ _))

/-! ### Blocks do not meet -/

/-- No two blocks meet. -/
def Spread (trade : Trade) : Prop :=
  ∀ first second, trade.Holds first → trade.Holds second → first ≠ second →
    Disjoint first.range second.range

theorem spread_opened (policy : Policy) (arena : Arena) : (opened policy arena).Spread :=
  fun first _ holds => absurd holds (not_holds_opened policy arena first)

theorem Marked.range_of_new {trade : Trade} (marked : trade.Marked) (custody : trade.Custody)
    {turn : Turn} {block : Block} (holds : (trade.take turn).Holds block)
    (new : ¬trade.Holds block) :
    block.range = ∅ ∨
      trade.Places turn ∧ block.id = trade.issued + 1 ∧ block.range = turn.range := by
  by_cases empty : block = Block.empty
  · exact Or.inl (empty ▸ Block.range_empty)
  · obtain ⟨places, id, address, length⟩ := marked.new_block custody holds new empty
    refine Or.inr ⟨places, id, ?_⟩
    unfold Block.range Turn.range
    rw [address, length]

theorem Spread.take {trade : Trade} (spread : trade.Spread) (marked : trade.Marked)
    (custody : trade.Custody) {turn : Turn} (clear : trade.Clear turn) :
    (trade.take turn).Spread := by
  intro first second holds holds' different
  -- What is neither here before nor without bytes is the one block that the heap has placed.
  by_cases old : trade.Holds first
  · by_cases old' : trade.Holds second
    · exact spread first second old old' different
    · rcases marked.range_of_new custody holds' old' with empty | ⟨places, -, range⟩
      · exact empty ▸ disjoint_bot_right
      · exact range ▸ clear places first old
  · rcases marked.range_of_new custody holds old with empty | ⟨places, id, range⟩
    · exact empty ▸ disjoint_bot_left
    · by_cases old' : trade.Holds second
      · exact range ▸ (clear places second old').symm
      · rcases marked.range_of_new custody holds' old' with empty | ⟨-, id', -⟩
        · exact empty ▸ disjoint_bot_right
        · exact absurd ((custody.take turn).named.unique first second holds holds'
            (id.trans id'.symm)) different

end Trade

/-! ### The block for a loan -/

/-- The block for a loan of a length that a block can have: one that the reserve has kept, or one
that the heap places. -/
inductive Desk.Chosen (desk : Desk) (size : Nat) : Except Fault Block × Desk → Prop where
  | kept (block : Block) (after : Desk) (member : block ∈ desk.lender.reserve.kept)
      (room : size ≤ block.capacity) (positive : size ≠ 0) :
      Chosen desk size (.ok block, after)
  | placed (pooled : Bool) (after : Desk)
      (arena : after.arena = desk.arena.place (if size = 0 then 1 else size)) :
      Chosen desk size
        (.ok (desk.arena.nextBlock (if size = 0 then 1 else size) pooled), after)

theorem Desk.chosen (desk : Desk) {size : Nat} (short : size ≤ Word.longestBlock) :
    desk.Chosen size (desk.blockFor size) := by
  unfold blockFor
  by_cases zero : size = 0
  · subst zero
    exact .placed false _ rfl
  · rw [if_neg zero]
    have supplied := desk.supplied size
    rcases drawn : desk.procure size with ⟨fault | block, after⟩
    · exact absurd short (Nat.not_le_of_lt (desk.long_of_procure drawn))
    · rw [drawn] at supplied
      generalize arrived : (Except.ok block, after).2.arena = arena at supplied
      cases supplied with
      | kept block old room =>
        rcases old with rfl | member
        · exact absurd (Nat.le_zero.mp room) zero
        · exact .kept block after member room zero
      | placed positive shorter =>
        have placed := @Chosen.placed desk size true after
        rw [if_neg zero] at placed
        exact placed arrived

namespace Trade

/-- The block under a new loan, with what makes room for the loan. -/
structure Room (trade : Trade) (size : Nat) (block : Block) : Prop where
  long : size ≤ block.capacity
  solid : block.capacity ≠ 0
  ends : block.address + block.capacity ≤ Word.limit
  apart : ∀ place other, place ≠ .kept → trade.Stores place other →
    Disjoint block.range other.range

/-- Blocks do not meet, they end at the last address at the latest, and the loans stand one
before the other in their blocks. -/
structure Spaced (trade : Trade) : Prop where
  spread : trade.Spread
  bounded : ∀ block, trade.Holds block → block.address + block.capacity ≤ Word.limit
  lies : ∀ loan ∈ trade.loans, loan.Lies
  apart : trade.loans.Pairwise Loan.Precedes

theorem Custody.place_eq {trade : Trade} (custody : trade.Custody) {place place' : Place}
    {first second : Block} (stored : trade.Stores place first)
    (stored' : trade.Stores place' second) (real : first.id ≠ 0) (same : first.id = second.id) :
    place = place' :=
  Option.some.inj ((custody.exists_unique_place real).unique ⟨first, stored, rfl⟩
    ⟨second, stored', same.symm⟩)

section Lend

variable {trade : Trade} {size place : Nat} (custody : trade.Custody) (spaced : trade.Spaced)
  (short : size ≤ Word.longestBlock)

theorem places_lend {block : Block} {after : Desk}
    (drawn : (trade.ready place).desk.blockFor size = (.ok block, after))
    (arena : after.arena =
      Arena.place (trade.ready place).desk.arena (if size = 0 then 1 else size)) :
    trade.Places ⟨.lend size, place⟩ := by
  have ground := congrArg Prod.fst (Desk.overlooks_ground.lend (trade.ready place).desk size)
  rw [drawn] at ground
  exact congrArg Arena.announced (ground.trans arena)

include custody spaced short in
theorem room_of_lend (spares : trade.Spares ⟨.lend size, place⟩) :
    ∃ block after, (trade.ready place).desk.blockFor size = (.ok block, after) ∧
      trade.Room size block := by
  have chosen := (trade.ready place).desk.chosen short
  generalize drawn : (trade.ready place).desk.blockFor size = result at chosen
  cases chosen with
  | kept block after member room positive =>
    have solid : block.capacity ≠ 0 := fun none => positive (Nat.le_zero.mp (none ▸ room))
    refine ⟨block, after, rfl, room, solid, spaced.bounded block ⟨.kept, member⟩,
      fun place other outside stored => ?_⟩
    refine spaced.spread block other ⟨.kept, member⟩ ⟨place, stored⟩ fun same => ?_
    have real : block.id ≠ 0 := fun none =>
      solid (custody.named.empty block ⟨.kept, member⟩ none ▸ rfl)
    have kept : trade.Stores .kept block := member
    exact outside (custody.place_eq kept stored real (congrArg Block.id same)).symm
  | placed pooled after arena =>
    have places := places_lend drawn arena
    refine ⟨_, after, rfl, ?_, ?_, spares.2 places, fun _ other _ stored => ?_⟩
    · show size ≤ if size = 0 then 1 else size
      split <;> omega
    · show (if size = 0 then 1 else size) ≠ 0
      split <;> omega
    · exact (spares.1 places other ⟨_, stored⟩).symm

include custody spaced short in
/-- A loan never fails for want of room. -/
theorem granted (spares : trade.Spares ⟨.lend size, place⟩) :
    ∃ block, trade.Room size block ∧
      trade.desk.lender.loans.enter ⟨trade.desk.lender.nextToken, block, size⟩ =
        .ok (trade.take ⟨.lend size, place⟩).desk.lender.loans ∧
      trade.answer ⟨.lend size, place⟩ = .loan block.address trade.desk.lender.nextToken := by
  obtain ⟨block, after, drawn, room⟩ := room_of_lend custody spaced short spares
  have books := Desk.overlooks_books.blockFor (trade.ready place).desk size
  rw [drawn] at books
  obtain ⟨loans, token, -⟩ := Desk.of_books books
  dsimp only at loans token
  have lies : Loan.Lies ⟨trade.desk.lender.nextToken, block, size⟩ := ⟨room.long, room.solid⟩
  have clear : ∀ other ∈ trade.loans,
      other.Precedes ⟨trade.desk.lender.nextToken, block, size⟩ ∨
        Loan.Precedes ⟨trade.desk.lender.nextToken, block, size⟩ other := fun other member =>
    Loan.precedes_or (spaced.lies other member) lies
      (room.apart .pinned other.block nofun (Or.inl ⟨other, member, rfl⟩)).symm
  have small : ∀ other ∈ ⟨trade.desk.lender.nextToken, block, size⟩ :: trade.loans,
      other.base < Word.limit := by
    refine List.forall_mem_cons.mpr ⟨?_, fun other member => ?_⟩
    · exact Nat.lt_of_lt_of_le (Nat.lt_add_of_pos_right (Nat.pos_of_ne_zero room.solid)) room.ends
    · have solid := (spaced.lies other member).2
      exact Nat.lt_of_lt_of_le (Nat.lt_add_of_pos_right (Nat.pos_of_ne_zero solid))
        (spaced.bounded other.block ⟨.pinned, Or.inl ⟨other, member, rfl⟩⟩)
  obtain ⟨entered, accepted⟩ := LoanBook.exists_enter
    (LoanBook.checkRoom_of_clear (LoanBook.ordered_of_apart spaced.apart) small clear)
  have lent : (trade.ready place).desk.lend size =
      (.ok (block.address, trade.desk.lender.nextToken),
        { after.drawToken with lender := { after.drawToken.lender with loans := entered } }.log
          (.lent block.address size trade.desk.lender.nextToken)) := by
    unfold Desk.lend
    rw [drawn]
    dsimp only
    rw [show after.lender.nextToken = trade.desk.lender.nextToken from token,
      show after.drawToken.lender.loans = trade.desk.lender.loans from loans, accepted]
  refine ⟨block, room, ?_, ?_⟩
  · rw [accepted]
    show _ = Except.ok ((trade.ready place).desk.lend size).2.lender.loans
    rw [lent]
    rfl
  · show Reply.ofAnswer _ ((trade.ready place).desk.lend size).1 = _
    rw [lent]
    rfl

include custody spaced in
/-- Lending leaves the book as it is, or it enters one loan that lies in its block. -/
theorem loans_lend (spares : trade.Spares ⟨.lend size, place⟩) :
    (trade.take ⟨.lend size, place⟩).desk.lender.loans = trade.desk.lender.loans ∨
      ∃ loan : Loan, loan.Lies ∧ trade.desk.lender.loans.enter loan =
        .ok (trade.take ⟨.lend size, place⟩).desk.lender.loans := by
  by_cases short : size ≤ Word.longestBlock
  · obtain ⟨block, room, accepted, -⟩ := granted custody spaced short spares
    exact Or.inr ⟨⟨_, block, size⟩, ⟨room.long, room.solid⟩, accepted⟩
  · show ((trade.ready place).desk.lend size).2.lender.loans = _ ∨
      ∃ loan : Loan, loan.Lies ∧ _ = Except.ok ((trade.ready place).desk.lend size).2.lender.loans
    have lent := (trade.ready place).desk.lent size
    generalize (trade.ready place).desk.lend size = result at lent ⊢
    cases lent with
    | refused fault after loans => exact Or.inl loans
    | granted block after long accepted =>
      have long : size ≤ block.capacity := long
      exact Or.inr ⟨_, ⟨long, by show block.capacity ≠ 0; omega⟩, accepted⟩

end Lend

/-- Only lending enters loans. -/
theorem loans_sublist (trade : Trade) {turn : Turn} (other : turn.deed.isLend = false) :
    (trade.take turn).loans.Sublist trade.loans := by
  by_cases reclaims : ∃ address token, turn.deed = .reclaim address token
  · obtain ⟨deed, place⟩ := turn
    obtain ⟨address, token, rfl⟩ := reclaims
    show ((trade.ready place).desk.reclaim address token).2.lender.loans.toList.Sublist _
    cases found : (trade.ready place).desk.lender.loans.at? address with
    | some loan =>
      by_cases same : loan.token = token
      · obtain ⟨aside, reclaimed⟩ := Desk.reclaim_of_match found same
        rw [reclaimed]
        exact LoanBook.strike_sublist _ address
      · rw [Desk.reclaim_of_mismatch found same]
        exact List.Sublist.refl _
    | none =>
      rw [Desk.reclaim_of_absent found]
      cases (trade.ready place).desk.lender.policy.unknownReturn <;> exact List.Sublist.refl _
  · have books := (trade.ready turn.place).books_perform other fun address token deed =>
      reclaims ⟨address, token, deed⟩
    show ((trade.ready turn.place).perform turn.deed).2.desk.lender.loans.toList.Sublist _
    rw [(Desk.of_books books).1]
    exact List.Sublist.refl _

/-- A loan that has been entered stands before or after every other one: their blocks differ, so
they do not meet. -/
theorem clear_of_entered {trade : Trade} {book : LoanBook} {loan : Loan}
    (custody : trade.Custody) (spread : trade.Spread) (loan_lies : loan.Lies)
    (lies : ∀ other ∈ book.toList, other.Lies)
    (accepted : book.enter loan = .ok trade.desk.lender.loans) :
    ∀ other ∈ book.toList, other.Precedes loan ∨ loan.Precedes other := by
  intro other member
  have lent : loan ∈ trade.loans := (LoanBook.mem_of_enter accepted).mpr (Or.inl rfl)
  have lent' : other ∈ trade.loans := (LoanBook.mem_of_enter accepted).mpr (Or.inr member)
  have ids := ((LoanBook.perm_of_enter accepted).map (·.block.id)).nodup_iff.mp custody.apart
  have different : other.block ≠ loan.block := fun same =>
    (List.nodup_cons.mp ids).1 (List.mem_map.mpr ⟨other, member, congrArg Block.id same⟩)
  exact Loan.precedes_or (lies other member) loan_lies (spread _ _
    ⟨.pinned, Or.inl ⟨other, lent', rfl⟩⟩ ⟨.pinned, Or.inl ⟨loan, lent, rfl⟩⟩ different)

theorem Spaced.take {trade : Trade} (spaced : trade.Spaced) (custody : trade.Custody)
    (marked : trade.Marked) {turn : Turn} (spares : trade.Spares turn) :
    (trade.take turn).Spaced := by
  have spread := spaced.spread.take marked custody spares.1
  have loans : (∀ loan ∈ (trade.take turn).loans, loan.Lies) ∧
      (trade.take turn).loans.Pairwise Loan.Precedes := by
    by_cases lends : ∃ size, turn.deed = .lend size
    · obtain ⟨deed, place⟩ := turn
      obtain ⟨size, rfl⟩ := lends
      rcases loans_lend custody spaced spares with same | ⟨loan, lies, accepted⟩
      · unfold Trade.loans
        rw [same]
        exact ⟨spaced.lies, spaced.apart⟩
      · have clear := clear_of_entered (custody.take _) spread lies spaced.lies accepted
        refine ⟨fun other member => ?_, LoanBook.apart_of_enter spaced.apart clear accepted⟩
        rcases (LoanBook.mem_of_enter accepted).mp member with rfl | older
        · exact lies
        · exact spaced.lies other older
    · have other : turn.deed.isLend = false := by
        cases deed : turn.deed with
        | lend size => exact absurd ⟨size, deed⟩ lends
        | _ => rfl
      have sublist := trade.loans_sublist other
      exact ⟨fun loan member => spaced.lies loan (sublist.subset member),
        spaced.apart.sublist sublist⟩
  refine ⟨spread, fun block holds => ?_, loans.1, loans.2⟩
  by_cases old : trade.Holds block
  · exact spaced.bounded block old
  · by_cases empty : block = Block.empty
    · exact empty ▸ Nat.zero_le _
    · obtain ⟨places, -, address, length⟩ := marked.new_block custody holds old empty
      rw [address, length]
      exact spares.2 places

/-! ### The spacing of loans -/

/-- No loan, no open view and no replica is in a range. -/
structure Untouched (trade : Trade) (range : Set Nat) : Prop where
  loans : ∀ loan ∈ trade.loans, Disjoint range loan.block.range
  views : ∀ view ∈ trade.views, Disjoint range view.block.range
  replicas : ∀ replica, trade.replicas.Has replica → Disjoint range replica.storage.range

/-- What native code can rely on about the addresses it gets. -/
structure Spacing (trade : Trade) : Prop where
  /-- Two loans have two addresses. -/
  addresses : (trade.loans.map Loan.base).Nodup
  /-- The blocks of two loans do not meet, and no loan is longer than its block. -/
  loans : trade.loans.Pairwise fun first second =>
    Disjoint first.block.range second.block.range
  within : ∀ loan ∈ trade.loans, loan.length ≤ loan.block.capacity
  /-- No loan meets a replica, or a view of another block. -/
  replicas : ∀ loan ∈ trade.loans, ∀ replica, trade.replicas.Has replica →
    Disjoint loan.block.range replica.storage.range
  views : ∀ loan ∈ trade.loans, ∀ view ∈ trade.views, view.block ≠ loan.block →
    Disjoint loan.block.range view.block.range
  /-- Every loan that was asked for has come about. -/
  granted : ∀ size reply, (.lend size, reply) ∈ trade.record → size ≤ Word.longestBlock →
    ∃ address token, reply = .loan address token
  /-- Every loan that is asked for next comes about, at an address of its own and in a range in
  which nothing is. -/
  lending : ∀ size place, size ≤ Word.longestBlock → trade.Spares ⟨.lend size, place⟩ →
    ∃ address token, trade.answer ⟨.lend size, place⟩ = .loan address token ∧
      (∀ loan ∈ trade.loans, loan.base ≠ address) ∧
        trade.Untouched (Set.Ico address (address + size))

theorem Room.untouched {trade : Trade} {size : Nat} {block : Block}
    (room : trade.Room size block) :
    trade.Untouched (Set.Ico block.address (block.address + size)) := by
  have within : Set.Ico block.address (block.address + size) ⊆ block.range :=
    Set.Ico_subset_Ico_right (Nat.add_le_add_left room.long _)
  refine ⟨fun loan member => ?_, fun view member => ?_, fun replica had => ?_⟩
  · exact (room.apart .pinned _ nofun (Or.inl ⟨loan, member, rfl⟩)).mono_left within
  · exact (room.apart .pinned _ nofun (Or.inr ⟨view, member, rfl⟩)).mono_left within
  · exact (room.apart .backing _ nofun ⟨replica, had, rfl⟩).mono_left within

/-- Blocks that do not meet and have bytes begin at two addresses. -/
theorem address_ne {first second : Block} (solid : first.capacity ≠ 0)
    (solid' : second.capacity ≠ 0) (apart : Disjoint first.range second.range) :
    second.address ≠ first.address := by
  unfold Block.range at apart
  rw [Set.Ico_disjoint_Ico] at apart
  omega

/-- Whatever was asked for, every loan of a length that a block can have has come about. -/
def Obliging (trade : Trade) : Prop :=
  ∀ size reply, (.lend size, reply) ∈ trade.record → size ≤ Word.longestBlock →
    ∃ address token, reply = .loan address token

theorem Obliging.take {trade : Trade} (obliging : trade.Obliging) (custody : trade.Custody)
    (spaced : trade.Spaced) {turn : Turn} (spares : trade.Spares turn) :
    (trade.take turn).Obliging := by
  intro size reply member short
  rcases List.mem_cons.mp member with same | earlier
  · obtain ⟨deed, place⟩ := turn
    obtain ⟨rfl, rfl⟩ := Prod.mk.inj same
    obtain ⟨block, -, -, answer⟩ := granted custody spaced short spares
    exact ⟨_, _, answer⟩
  · exact obliging size reply earlier short

/-- What every allowed turn keeps. -/
structure Roomy (trade : Trade) : Prop where
  custody : trade.Custody
  marked : trade.Marked
  spaced : trade.Spaced
  obliging : trade.Obliging

theorem roomy_opened (policy : Policy) (arena : Arena) : (opened policy arena).Roomy where
  custody := custody_opened policy arena
  marked := marked_opened policy arena
  spaced := ⟨spread_opened policy arena,
    fun block holds => absurd holds (not_holds_opened policy arena block), nofun, List.Pairwise.nil⟩
  obliging := nofun

theorem Roomy.take {trade : Trade} (roomy : trade.Roomy) {turn : Turn}
    (spares : trade.Spares turn) : (trade.take turn).Roomy where
  custody := roomy.custody.take turn
  marked := roomy.marked.take turn
  spaced := roomy.spaced.take roomy.custody roomy.marked spares
  obliging := roomy.obliging.take roomy.custody roomy.spaced spares

/-- On a heap that places a block where no other one is, whatever was asked for and given back
before, no two loans meet, and every loan that is asked for comes about. -/
theorem spacing_run (policy : Policy) (arena : Arena) (turns : List Turn)
    (spares : (opened policy arena).Throughout Spares turns) :
    Spacing ((opened policy arena).run turns) := by
  have roomy := throughout_induction (roomy_opened policy arena) spares
    fun trade turn spares roomy => roomy.take spares
  generalize (opened policy arena).run turns = trade at roomy
  obtain ⟨custody, -, spaced, obliging⟩ := roomy
  have pinned : ∀ loan ∈ trade.loans, trade.Stores .pinned loan.block := fun loan member =>
    Or.inl ⟨loan, member, rfl⟩
  refine
    { addresses := (LoanBook.ordered_of_apart spaced.apart).nodup_bases
      loans := ?_
      within := fun loan member => (spaced.lies loan member).1
      replicas := fun loan member replica had => ?_
      views := fun loan member view opened different => ?_
      granted := obliging
      lending := fun size place short spares => ?_ }
  · refine (List.pairwise_map.mp custody.apart).imp_of_mem fun member member' different => ?_
    exact spaced.spread _ _ ⟨_, pinned _ member⟩ ⟨_, pinned _ member'⟩
      (mt (congrArg Block.id) different)
  · have backing : trade.Stores .backing replica.storage := ⟨replica, had, rfl⟩
    refine spaced.spread _ _ ⟨_, pinned loan member⟩ ⟨_, backing⟩ fun same => ?_
    have real : loan.block.id ≠ 0 := fun none => (spaced.lies loan member).2
      (custody.named.empty loan.block ⟨_, pinned loan member⟩ none ▸ rfl)
    cases custody.place_eq (pinned loan member) backing real (congrArg Block.id same)
  · exact spaced.spread _ _ ⟨_, pinned loan member⟩ ⟨.pinned, Or.inr ⟨view, opened, rfl⟩⟩
      (Ne.symm different)
  · obtain ⟨block, room, -, answer⟩ := granted custody spaced short spares
    refine ⟨block.address, _, answer, fun loan member => ?_, room.untouched⟩
    exact address_ne room.solid (spaced.lies loan member).2
      (room.apart .pinned _ nofun (pinned loan member))

/-- A block of sixteen bytes is lent again for eight, and right behind its sixteen bytes comes the
byte for a loan of no bytes. Another loan of no bytes has room right behind that one. -/
theorem spacing_run_reused :
    let turns : List Turn :=
      [⟨.lend 16, 4096⟩, ⟨.reclaim 4096 ⟨1⟩, 0⟩, ⟨.lend 8, 0⟩, ⟨.lend 0, 4112⟩]
    let start := opened Policy.standard (Arena.startingAt 0 16 16)
    start.Throughout Spares turns ∧
      (start.run turns).loans.map Loan.debt = [⟨4096, 8, ⟨2⟩⟩, ⟨4112, 0, ⟨3⟩⟩] ∧
        (start.run turns).Spares ⟨.lend 0, 4113⟩ ∧
          ∃ address token, (start.run turns).answer ⟨.lend 0, 4113⟩ = .loan address token := by
  intro turns start
  have spares : start.Throughout Spares turns := by decide +kernel
  have room : (start.run turns).Spares ⟨.lend 0, 4113⟩ := by decide +kernel
  have spacing := spacing_run Policy.standard (Arena.startingAt 0 16 16) turns spares
  obtain ⟨address, token, answer, -⟩ := spacing.lending 0 4113 (Nat.zero_le _) room
  exact ⟨spares, by decide +kernel, room, address, token, answer⟩

end Trade

end MemoryLending
