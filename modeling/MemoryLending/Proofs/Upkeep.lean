/-
This file keeps the desks of an office in order. What happens at one desk changes for another
lender no more than memory and the journal, and none of the rules about blocks, loans and
replicas speaks of those, nor of rosters. The work at a desk in turn does not depend on what the
heap has announced, but for the place of the block it needs. So a desk is in order after each
routine change of the office, and after each loan for which the heap has had a place.
-/

import MemoryLending.Proofs.Conduct
import MemoryLending.Proofs.Reach

namespace MemoryLending

namespace Trade

/-! ### What happens beside a trade -/

theorem whereRead_of_record (trade : Trade) (record : Record) (replica : Replica)
    (work : Desk → Desk) :
    whereRead { trade with record } replica work =
      { trade.whereRead replica work with record } := by
  unfold whereRead
  split <;> rename_i reading
  · rw [if_pos (show trade.reads replica = true from reading)]
    rfl
  · rw [if_neg (show ¬trade.reads replica = true from reading)]

/-- What is done does not depend on the record. -/
theorem perform_of_record (trade : Trade) (record : Record) (deed : Deed) :
    perform { trade with record } deed =
      ((trade.perform deed).1, { (trade.perform deed).2 with record }) := by
  cases deed with
  | handIn block =>
    unfold perform
    dsimp only
    split <;> rfl
  | donate size =>
    unfold perform donate
    dsimp only
    split
    · rfl
    · split <;> rfl
  | copyHandle replica =>
    exact congrArg (Prod.mk _) (trade.whereRead_of_record record replica (·.openHandle replica))
  | pull replica =>
    exact congrArg (Prod.mk _) (trade.whereRead_of_record record replica (·.pull replica))
  | push replica =>
    exact congrArg (Prod.mk _) (trade.whereRead_of_record record replica (·.push replica))
  | edit replica offset bytes =>
    exact congrArg (Prod.mk _) (trade.whereRead_of_record record replica fun desk =>
      (desk.editReplica? replica offset bytes).getD desk)
  | _ => rfl

theorem take_of_record (trade : Trade) (record : Record) (turn : Turn) :
    take { trade with record } turn =
      { trade.take turn with record := (turn.deed, trade.answer turn) :: record } := by
  unfold take answer
  rw [show ready { trade with record } turn.place =
    { trade.ready turn.place with record } from rfl, perform_of_record]

theorem answer_of_record (trade : Trade) (record : Record) (turn : Turn) :
    answer { trade with record } turn = trade.answer turn := by
  unfold answer
  rw [show ready { trade with record } turn.place =
    { trade.ready turn.place with record } from rfl, perform_of_record]

/-- Nothing has changed but memory, the journal, the roster and who serves native code, and no
identity has been taken back. -/
def Beside (before after : Trade) : Prop :=
  ∃ arena roster serving journal, before.issued ≤ arena.identities ∧
    after = { before with
      desk := ⟨arena, { before.desk.lender with roster, serving }, journal⟩ }

section Beside

variable {before after : Trade} (still : before.Beside after)

include still

theorem Custody.beside (custody : before.Custody) : after.Custody := by
  obtain ⟨arena, roster, serving, journal, later, rfl⟩ := still
  exact
    { named :=
        { unique := custody.named.unique
          issued := fun block holds => Nat.le_trans (custody.named.issued block holds) later
          empty := custody.named.empty }
      shared :=
        { replica := custody.shared.replica
          storage := custody.shared.storage
          numbered := fun replica had => Nat.le_trans (custody.shared.numbered replica had) later
          addresses := custody.shared.addresses }
      single := custody.single
      solid := custody.solid
      pooled := custody.pooled
      apart := custody.apart
      bytes := custody.bytes
      views := custody.views }

theorem Roomy.beside (roomy : before.Roomy) : after.Roomy := by
  have custody := roomy.custody.beside still
  obtain ⟨arena, roster, serving, journal, later, rfl⟩ := still
  obtain ⟨-, ⟨filled, issued⟩, ⟨spread, bounded, lies, apart⟩, obliging⟩ := roomy
  exact
    { custody := custody
      marked := ⟨filled, fun id member => Nat.le_trans (issued id member) later⟩
      spaced := ⟨spread, bounded, lies, apart⟩
      obliging := obliging }

theorem Tended.beside (tended : before.Tended) : after.Tended := by
  have roomy := tended.roomy.beside still
  obtain ⟨arena, roster, serving, journal, later, rfl⟩ := still
  obtain ⟨-, fits, within, sound, balanced⟩ := tended
  exact ⟨roomy, fits, within, sound, balanced⟩

end Beside

/-! ### Blocks at addresses -/

/-- The heap places a block where no other one is, before the last address, and not at zero. -/
def Houses (trade : Trade) (turn : Turn) : Prop :=
  trade.Grounded turn ∧ (trade.Places turn → turn.place ≠ 0)

instance decidableHouses (trade : Trade) (turn : Turn) : Decidable (trade.Houses turn) :=
  inferInstanceAs (Decidable (_ ∧ _))

theorem houses_of_record {trade : Trade} {turn : Turn} (houses : trade.Houses turn)
    (record : Record) : Houses { trade with record } turn := by
  have places : Places { trade with record } turn = trade.Places turn := by
    unfold Places
    rw [take_of_record]
  obtain ⟨⟨⟨clear, ends⟩, fits⟩, present⟩ := houses
  refine ⟨⟨⟨?_, ?_⟩, fits⟩, ?_⟩
  · unfold Clear
    rw [places]
    exact clear
  · rw [places]
    exact ends
  · rw [places]
    exact present

/-- What such turns keep. -/
structure Housed (trade : Trade) : Prop where
  tended : trade.Tended
  referred : trade.Referred
  present : ∀ block, trade.Holds block → block.capacity ≠ 0 → block.address ≠ 0
  short : ∀ block, trade.Holds block → block.capacity ≤ Word.longestBlock

theorem housed_opened (policy : Policy) (arena : Arena) : (opened policy arena).Housed where
  tended := ⟨roomy_opened policy arena, accounted_opened policy arena⟩
  referred := referred_opened policy arena
  present block holds := absurd holds (not_holds_opened policy arena block)
  short block holds := absurd holds (not_holds_opened policy arena block)

theorem Housed.take {trade : Trade} (housed : trade.Housed) {turn : Turn}
    (houses : trade.Houses turn) : (trade.take turn).Housed where
  tended :=
    ⟨housed.tended.roomy.take houses.1.1, housed.tended.accounted.take houses.1.2⟩
  referred := housed.referred.take turn
  present block holds solid := by
    by_cases old : trade.Holds block
    · exact housed.present block old solid
    · have real : block ≠ Block.empty := fun empty => solid (empty ▸ rfl)
      obtain ⟨places, -, address, -⟩ :=
        housed.tended.roomy.marked.new_block housed.tended.roomy.custody holds old real
      exact address ▸ houses.2 places
  short block holds := by
    rcases holds_take holds with old | rfl | ⟨-, -, -, short⟩
    · exact housed.short block old
    · exact Nat.zero_le _
    · exact short

theorem Housed.beside {before after : Trade} (still : before.Beside after)
    (housed : before.Housed) : after.Housed := by
  have tended := housed.tended.beside still
  obtain ⟨arena, roster, serving, journal, later, rfl⟩ := still
  exact ⟨tended, housed.referred, housed.present, housed.short⟩

theorem Housed.of_level {trade : Trade} (housed : trade.Housed) (desk : Desk)
    (same : desk.lender = trade.desk.lender)
    (level : trade.desk.arena.identities = desk.arena.identities) :
    (Trade.mk desk trade.rented trade.record).Housed := by
  obtain ⟨arena, _, journal⟩ := desk
  obtain rfl := same
  have later : trade.issued ≤ arena.identities := Nat.le_of_eq level
  exact housed.beside ⟨arena, _, _, journal, later, rfl⟩

/-- A turn that asks for no fresh block is housed by every heap. -/
theorem houses_of_idle (trade : Trade) {turn : Turn} (none : turn.deed.freshLength = 0)
    (low : turn.place < Word.limit) (still : ¬trade.Places turn) : trade.Houses turn :=
  ⟨⟨⟨fun places => absurd places still, fun places => absurd places still⟩,
    fun _ => none ▸ low⟩, fun places => absurd places still⟩

end Trade

namespace Desk

/-- The desk when the heap has announced places. -/
def announce (desk : Desk) (places : List Nat) : Desk :=
  { desk with arena := desk.arena.announce places }

/-! ### Work that does not look at the arena -/

theorem retireBlock_arena (desk : Desk) (arena : Arena) (block : Block) :
    retireBlock { desk with arena } block = { desk.retireBlock block with arena } := by
  unfold retireBlock restore
  dsimp only
  split
  · split <;> rfl
  · rfl

theorem unpin_arena (desk : Desk) (arena : Arena) (block : Block) :
    unpin { desk with arena } block = { desk.unpin block with arena } := by
  unfold unpin
  dsimp only
  split
  · rfl
  · exact desk.retireBlock_arena arena block

theorem unholdReplica_arena (desk : Desk) (arena : Arena) (replica : Replica) :
    unholdReplica { desk with arena } replica = { desk.unholdReplica replica with arena } := by
  unfold unholdReplica
  dsimp only
  split
  · rfl
  · exact (desk.withReplicas _).retireBlock_arena arena replica.storage

theorem reclaim_arena (desk : Desk) (arena : Arena) (address : Nat) (token : Token) :
    reclaim { desk with arena } address token =
      ((desk.reclaim address token).1, { (desk.reclaim address token).2 with arena }) := by
  unfold reclaim
  dsimp only
  split
  · rename_i loan found
    split
    · have unpinned := unpin_arena ((desk.withLoans (desk.lender.loans.strike address)).log
        (.reclaimed address loan.length token)) arena loan.block
      exact Prod.ext rfl unpinned
    · rfl
  · split <;> rfl

theorem giveBack_arena (desk : Desk) (arena : Arena) (address : Nat) :
    giveBack { desk with arena } address =
      ((desk.giveBack address).1, { (desk.giveBack address).2 with arena }) := by
  unfold giveBack
  dsimp only
  split
  · rfl
  · rename_i entry found
    split
    · have unheld := unholdReplica_arena
        ((desk.withReplicas (desk.lender.replicas.remove address)).log
          (.replicaReleased address)) arena entry.replica
      exact Prod.ext rfl unheld
    · rfl

theorem endLease_arena (desk : Desk) (arena : Arena) (replica : Replica) :
    endLease { desk with arena } replica = { desk.endLease replica with arena } := by
  unfold endLease
  rw [desk.giveBack_arena arena]
  dsimp only
  split
  · generalize desk.giveBack replica.address = result
    obtain ⟨violation | _, after⟩ := result
    · exact unholdReplica_arena ((after.log (.leaseReturnFailed violation)).withLeases
        (after.lender.replicas.leases.erase replica)) arena replica
    · exact unholdReplica_arena (after.withLeases (after.lender.replicas.leases.erase replica))
        arena replica
  · rfl

end Desk

/-! ### Lending -/

/-- Two arenas hold the same bytes and have given out as many identities. -/
structure Arena.Level (first second : Arena) : Prop where
  memory : first.memory = second.memory
  identities : first.identities = second.identities

theorem Arena.Level.place {first second : Arena} (level : first.Level second)
    (address : first.nextAddress = second.nextAddress) (length : Nat) :
    (first.place length).Level (second.place length) where
  memory := by
    show first.memory.putRun _ _ = second.memory.putRun _ _
    rw [level.memory, address]
  identities := by rw [identities_place, identities_place, level.identities]

theorem Arena.Level.nextBlock {first second : Arena} (level : first.Level second)
    (address : first.nextAddress = second.nextAddress) (length : Nat) (pooled : Bool) :
    first.nextBlock length pooled = second.nextBlock length pooled := by
  unfold Arena.nextBlock nextIdentity
  rw [level.identities, address]

namespace Desk

section Lend

variable (desk : Desk) {arena : Arena} (level : arena.Level desk.arena)
  (address : arena.nextAddress = desk.arena.nextAddress) (size : Nat)

include level address

theorem procure_level :
    ∃ placed, placed.Level (desk.procure size).2.arena ∧
      procure { desk with arena } size =
        ((desk.procure size).1, { (desk.procure size).2 with arena := placed }) := by
  unfold procure
  by_cases zero : size = 0
  · rw [if_pos zero, if_pos zero]
    exact ⟨arena, level, rfl⟩
  rw [if_neg zero, if_neg zero]
  dsimp only
  rcases desk.lender.reserve.request size with ⟨_ | block, reserve⟩
  · dsimp only
    by_cases long : Word.longestBlock < size
    · rw [if_pos long, if_pos long]
      exact ⟨arena, level, rfl⟩
    · rw [if_neg long, if_neg long]
      refine ⟨arena.place size, level.place address size, ?_⟩
      exact Prod.ext (congrArg Except.ok (level.nextBlock address size true)) rfl
  · exact ⟨arena, level, rfl⟩

theorem blockFor_level :
    ∃ placed, placed.Level (desk.blockFor size).2.arena ∧
      blockFor { desk with arena } size =
        ((desk.blockFor size).1, { (desk.blockFor size).2 with arena := placed }) := by
  unfold blockFor
  by_cases zero : size = 0
  · rw [if_pos zero, if_pos zero]
    refine ⟨arena.place 1, level.place address 1, ?_⟩
    exact Prod.ext (congrArg Except.ok (level.nextBlock address 1 false)) rfl
  · rw [if_neg zero, if_neg zero]
    exact desk.procure_level level address size

/-- Where the next block goes is all that lending sees of what the heap has announced. -/
theorem lend_level :
    ∃ placed, placed.Level (desk.lend size).2.arena ∧
      lend { desk with arena } size =
        ((desk.lend size).1, { (desk.lend size).2 with arena := placed }) := by
  obtain ⟨placed, level', drawn⟩ := desk.blockFor_level level address size
  unfold lend
  rw [drawn]
  generalize desk.blockFor size = result at level'
  obtain ⟨fault | block, after⟩ := result
  · exact ⟨placed, level', rfl⟩
  dsimp only [drawToken]
  cases after.lender.loans.enter ⟨after.lender.nextToken, block, size⟩ with
  | ok loans => exact ⟨placed, level', rfl⟩
  | error violation =>
    have ground := overlooks_ground.retireBlock after.drawToken block
    have still : (after.drawToken.retireBlock block).arena = after.arena := congrArg Prod.fst ground
    refine ⟨placed, ?_, Prod.ext rfl (retireBlock_arena after.drawToken placed block)⟩
    show placed.Level (after.drawToken.retireBlock block).arena
    exact still ▸ level'

end Lend

end Desk

/-! ### The desks of an office -/

namespace Office

/-- The trade of one lender, given the blocks that its callers have rented and a record. -/
def tradeOf (office : Office) (lender : Nat) (rented : List Block) (record : Record) : Trade :=
  ⟨office.desk lender, rented, record⟩

/-- Every desk is in order, given the blocks that callers have rented from each lender. -/
def Orderly (office : Office) (rented : Nat → List Block) : Prop :=
  ∀ lender, lender < office.lenders.size →
    ∃ record, (office.tradeOf lender (rented lender) record).Housed

/-- Two offices in which a lender has the same books. -/
theorem beside_tradeOf {before after : Office} {index : Nat} {roster : Roster} {serving : Bool}
    (issued : before.arena.identities ≤ after.arena.identities)
    (same : after.lender index = { before.lender index with roster, serving })
    (rented : List Block) (record : Record) :
    (before.tradeOf index rented record).Beside (after.tradeOf index rented record) := by
  refine ⟨after.arena, roster, serving, after.journal, issued, ?_⟩
  unfold tradeOf desk
  rw [same]

/-- What is done beside all desks leaves them in order. -/
theorem Orderly.beside {before after : Office} {rented : Nat → List Block}
    (orderly : before.Orderly rented) (size : after.lenders.size = before.lenders.size)
    (issued : before.arena.identities ≤ after.arena.identities)
    (still : ∀ lender, lender < before.lenders.size → ∃ roster serving,
      after.lender lender = { before.lender lender with roster, serving }) :
    after.Orderly rented := by
  intro lender inRange
  rw [size] at inRange
  obtain ⟨record, housed⟩ := orderly lender inRange
  obtain ⟨roster, serving, same⟩ := still lender inRange
  exact ⟨record, housed.beside (beside_tradeOf issued same (rented lender) record)⟩

/-- A desk in order is put in the place of one of the desks. -/
theorem Orderly.withDesk {office : Office} {rented : Nat → List Block}
    (orderly : office.Orderly rented) {index : Nat} {desk : Desk} {blocks : List Block}
    (issued : office.arena.identities ≤ desk.arena.identities)
    (housed : index < office.lenders.size → ∃ record, (Trade.mk desk blocks record).Housed) :
    (office.withDesk index desk).Orderly (Function.update rented index blocks) := by
  intro lender inRange
  rw [size_withDesk] at inRange
  have here := office.lender_withDesk index lender desk
  by_cases same : index = lender
  · subst same
    obtain ⟨record, housed⟩ := housed inRange
    rw [if_pos ⟨rfl, inRange⟩] at here
    refine ⟨record, ?_⟩
    rw [Function.update_self]
    unfold tradeOf Office.desk
    rw [here]
    exact housed
  · obtain ⟨record, housed⟩ := orderly lender inRange
    rw [if_neg fun both => same both.1] at here
    have still : (office.withDesk index desk).lender lender =
        { office.lender lender with
          roster := (office.lender lender).roster, serving := (office.lender lender).serving } :=
      here
    have beside := @beside_tradeOf office (office.withDesk index desk) lender _ _ issued still
    refine ⟨record, ?_⟩
    rw [Function.update_of_ne (Ne.symm same)]
    exact housed.beside (beside (rented lender) record)

/-- As many lenders are there, and whatever has been rented, desks stay in order. -/
def Upholds (before after : Office) : Prop :=
  after.lenders.size = before.lenders.size ∧
    ∀ rented, before.Orderly rented → after.Orderly rented

theorem upholds_withDesk (office : Office) (index : Nat) {desk : Desk}
    (issued : office.arena.identities ≤ desk.arena.identities)
    (housed : ∀ rented record, (office.tradeOf index rented record).Housed →
      ∃ record', (Trade.mk desk rented record').Housed) :
    office.Upholds (office.withDesk index desk) := by
  refine ⟨office.size_withDesk index desk, fun rented orderly => ?_⟩
  rw [← Function.update_eq_self index rented]
  refine orderly.withDesk issued fun inRange => ?_
  obtain ⟨record, here⟩ := orderly index inRange
  exact housed _ record here

/-- Work at a desk that needs no block and does not see what the heap has announced. -/
theorem upholds_idle (office : Office) (index : Nat) {deed : Deed} {desk : Desk}
    (none : deed.freshLength = 0) (issued : office.arena.identities ≤ desk.arena.identities)
    (worked : ∀ rented record,
      ((office.tradeOf index rented record).take ⟨deed, 0⟩).desk = desk.announce [0] ∧
        ((office.tradeOf index rented record).take ⟨deed, 0⟩).rented = rented) :
    office.Upholds (office.withDesk index desk) := by
  refine office.upholds_withDesk index issued fun rented record housed => ?_
  obtain ⟨worked, same⟩ := worked rented record
  have idle : ¬(office.tradeOf index rented record).Places ⟨deed, 0⟩ := by
    unfold Trade.Places
    rw [worked]
    exact nofun
  have low : (Turn.mk deed 0).place < Word.limit := Nat.zero_lt_succ _
  have housed' := housed.take (Trade.houses_of_idle _ none low idle)
  generalize (office.tradeOf index rented record).take ⟨deed, 0⟩ = after at worked same housed'
  obtain ⟨_, _, record'⟩ := after
  obtain rfl := worked
  obtain rfl := same
  exact ⟨record', housed'.of_level desk rfl rfl⟩

theorem upholds_reclaim (office : Office) (index address : Nat) (token : Token) :
    office.Upholds (office.withDesk index ((office.desk index).reclaim address token).2) := by
  have still : ((office.desk index).reclaim address token).2.arena = office.arena :=
    congrArg Prod.fst (Desk.overlooks_ground.reclaim (office.desk index) address token)
  have moved := (office.desk index).reclaim_arena (office.arena.announce [0]) address token
  refine @upholds_idle office index (.reclaim address token) _ rfl
    (Nat.le_of_eq (congrArg Arena.identities still).symm) fun rented record => ⟨?_, rfl⟩
  unfold Desk.announce
  rw [still]
  exact congrArg Prod.snd moved

theorem upholds_endLease (office : Office) (index : Nat) (replica : Replica) :
    office.Upholds (office.withDesk index ((office.desk index).endLease replica)) := by
  have still : ((office.desk index).endLease replica).arena = office.arena :=
    Desk.overlooks_arena.endLease (office.desk index) fun _ _ _ => rfl
  have moved := (office.desk index).endLease_arena (office.arena.announce [0]) replica
  refine @upholds_idle office index (.endLease replica) _ rfl
    (Nat.le_of_eq (congrArg Arena.identities still).symm) fun rented record => ⟨?_, rfl⟩
  unfold Desk.announce
  rw [still]
  exact moved

/-- A turn for which the heap has a place. -/
theorem Orderly.turn {office : Office} {rented : Nat → List Block}
    (orderly : office.Orderly rented) {index : Nat} {turn : Turn}
    (houses : (office.tradeOf index (rented index) []).Houses turn) :
    let after := (office.tradeOf index (rented index) []).take turn
    (office.withDesk index after.desk).Orderly (Function.update rented index after.rented) := by
  have issued := (office.tradeOf index (rented index) []).issued_le_take turn
  refine orderly.withDesk issued fun inRange => ?_
  obtain ⟨record, housed⟩ := orderly index inRange
  have taken := housed.take (Trade.houses_of_record houses record)
  rw [show office.tradeOf index (rented index) record =
    { office.tradeOf index (rented index) [] with record } from rfl, Trade.take_of_record] at taken
  exact ⟨_, taken⟩

/-- Work at a desk that comes to a turn for which the heap has a place: of what the heap has
announced, it sees no more than where the next block goes. -/
theorem Orderly.levelled {office : Office} {rented : Nat → List Block}
    (orderly : office.Orderly rented) {index : Nat} {deed : Deed} {desk : Desk} {placed : Arena}
    (houses : (office.tradeOf index (rented index) []).Houses ⟨deed, office.arena.nextAddress⟩)
    (level : placed.Level desk.arena)
    (worked : ((office.tradeOf index (rented index) []).take
      ⟨deed, office.arena.nextAddress⟩).desk = { desk with arena := placed })
    (same : ((office.tradeOf index (rented index) []).take
      ⟨deed, office.arena.nextAddress⟩).rented = rented index) :
    (office.withDesk index desk).Orderly rented := by
  have issued := (office.tradeOf index (rented index) []).issued_le_take
    ⟨deed, office.arena.nextAddress⟩
  rw [← Function.update_eq_self index rented]
  refine orderly.withDesk ?_ fun inRange => ?_
  · unfold Trade.issued at issued
    rw [worked] at issued
    exact Nat.le_trans issued (Nat.le_of_eq level.identities)
  · obtain ⟨record, housed⟩ := orderly index inRange
    have housed' := housed.take (Trade.houses_of_record houses record)
    rw [show office.tradeOf index (rented index) record =
      { office.tradeOf index (rented index) [] with record } from rfl,
      Trade.take_of_record] at housed'
    have housed' := housed'.of_level desk (congrArg Desk.lender worked).symm
      ((congrArg (·.arena.identities) worked).trans level.identities)
    rw [show Trade.rented { (office.tradeOf index (rented index) []).take
      ⟨deed, office.arena.nextAddress⟩ with record := _ } = rented index from same] at housed'
    exact ⟨_, housed'⟩

/-- A loan for which the heap has a place. -/
theorem Orderly.lend {office : Office} {rented : Nat → List Block}
    (orderly : office.Orderly rented) {index size : Nat}
    (houses : (office.tradeOf index (rented index) []).Houses
      ⟨.lend size, office.arena.nextAddress⟩) :
    (office.withDesk index ((office.desk index).lend size).2).Orderly rented := by
  have level : (office.arena.announce [office.arena.nextAddress]).Level office.arena := ⟨rfl, rfl⟩
  obtain ⟨placed, level', lent⟩ := (office.desk index).lend_level level rfl size
  exact orderly.levelled houses level' (congrArg Prod.snd lent) rfl

/-- Every routine change of an office leaves the desks in order. -/
theorem routine_upholds : Routine Upholds where
  refl _ := ⟨rfl, fun _ => id⟩
  trans first second :=
    ⟨second.1.trans first.1, fun rented orderly => second.2 rented (first.2 rented orderly)⟩
  journal office _ := ⟨rfl, fun _ orderly =>
    orderly.beside rfl (Nat.le_refl _) fun lender _ => ⟨_, _, rfl⟩⟩
  wrappers office _ := ⟨rfl, fun _ orderly =>
    orderly.beside rfl (Nat.le_refl _) fun lender _ => ⟨_, _, rfl⟩⟩
  sensors office _ := ⟨rfl, fun _ orderly =>
    orderly.beside rfl (Nat.le_refl _) fun lender _ => ⟨_, _, rfl⟩⟩
  hosts office _ := ⟨rfl, fun _ orderly =>
    orderly.beside rfl (Nat.le_refl _) fun lender _ => ⟨_, _, rfl⟩⟩
  roster office index change := by
    refine ⟨Array.size_modify, fun _ orderly =>
      orderly.beside Array.size_modify (Nat.le_refl _) fun lender inRange => ?_⟩
    rw [lender_modify office index lender _ inRange]
    split
    · exact ⟨_, _, rfl⟩
    · exact ⟨_, _, rfl⟩
  reclaim := upholds_reclaim
  endLease := upholds_endLease

end Office

end MemoryLending
