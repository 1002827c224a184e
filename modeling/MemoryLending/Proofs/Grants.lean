/-
This file numbers what the lenders of a process grant. A loan for which the heap has a place comes
about unless no block can be so long, and only then is a token used up. So the tokens of a lender
are one, two, three and so on, in every process over a heap that has places ready, and the next
token is none of those that have gone out, until a machine word comes round. Routine errands ask
for no blocks and use no tokens, so only the few errands that ask native code have to be followed.
-/

import MemoryLending.Proofs.Process

namespace MemoryLending

/-! ### Numbered tokens -/

namespace Token

/-- The first `count` tokens of a lender, the latest first. -/
def upTo : (count : Nat) → List Token
  | 0 => []
  | count + 1 => ofNumber (count + 1) :: upTo count

/-- A token comes next after those that have been granted. -/
structure Follows (next : Token) (granted : List Token) : Prop where
  numbered : granted = upTo granted.length
  next : next = ofNumber (granted.length + 1)

theorem follows_first : first.Follows [] := ⟨rfl, rfl⟩

theorem Follows.grant {next : Token} {granted : List Token} (follows : next.Follows granted) :
    next.next.Follows (next :: granted) := by
  obtain ⟨numbered, rfl⟩ := follows
  refine ⟨?_, ?_⟩
  · rw [List.length_cons, upTo, ← numbered]
  · unfold Token.next ofNumber
    rw [List.length_cons, UInt64.ofNat_add (granted.length + 1)]
    rfl

theorem number_ofNumber {number : Nat} (small : number < UInt64.size) :
    (ofNumber number).number = number :=
  UInt64.toNat_ofNat_of_lt' small

theorem number_of_mem_upTo {count : Nat} {token : Token} (member : token ∈ upTo count)
    (small : count < UInt64.size) : token.number ≤ count := by
  induction count with
  | zero => cases member
  | succ count inductionHypothesis =>
    rcases List.mem_cons.mp member with rfl | earlier
    · exact Nat.le_of_eq (number_ofNumber small)
    · exact Nat.le_succ_of_le (inductionHypothesis earlier (by omega))

/-- As long as the tokens do not come round, the next one is new, and not zero. -/
theorem Follows.fresh {next : Token} {granted : List Token} (follows : next.Follows granted)
    (few : granted.length < UInt64.size - 1) : next.raw ≠ 0 ∧ next ∉ granted := by
  obtain ⟨numbered, rfl⟩ := follows
  have number := @number_ofNumber (granted.length + 1) (by omega)
  refine ⟨fun zero => ?_, fun member => ?_⟩
  · have none : (ofNumber (granted.length + 1)).number = 0 := congrArg UInt64.toNat zero
    omega
  · have earlier : ofNumber (granted.length + 1) ∈ upTo granted.length := by
      rw [← numbered]
      exact member
    have := number_of_mem_upTo earlier (by omega)
    omega

end Token

/-! ### Loans that come about -/

namespace Lender

/-- What a loan changes for which there is a block: it is entered at an address of its own, and
one token is used up. -/
structure Granted (before after : Lender) (size : Nat) (block : Block) : Prop where
  present : block.address ≠ 0
  clear : ∀ loan ∈ before.loans.toList, loan.base ≠ block.address
  loans : after.loans.toList.Perm (⟨before.nextToken, block, size⟩ :: before.loans.toList)
  token : after.nextToken = before.nextToken.next

/-- What a loan changes for which there can be no block. -/
structure Beyond (before after : Lender) (size : Nat) : Prop where
  long : Word.longestBlock < size
  loans : after.loans = before.loans
  token : after.nextToken = before.nextToken

end Lender

namespace Trade

/-- No block is so long that it would be kept for a loan that no block can be made for. -/
theorem beyond_of_long {trade : Trade} (housed : trade.Housed) {size place : Nat}
    (long : Word.longestBlock < size) :
    trade.answer ⟨.lend size, place⟩ = .failed (.panicked .capacityOverflow) ∧
      trade.desk.lender.Beyond (trade.take ⟨.lend size, place⟩).desk.lender size := by
  have positive : size ≠ 0 := Nat.ne_of_gt (Nat.zero_lt_of_lt long)
  have drawn : ∃ aside, (trade.ready place).desk.blockFor size =
      (.error (.panicked .capacityOverflow),
        (trade.ready place).desk.amend [.request size] aside) := by
    have procured := (trade.ready place).desk.procured size
    unfold Desk.blockFor
    rw [if_neg positive]
    generalize (trade.ready place).desk.procure size = result at procured
    cases procured with
    | nothing zero => exact absurd zero positive
    | kept block rest aside _ taken =>
      have short := housed.short block ⟨.kept, Reserve.mem_of_takeFirst taken⟩
      have room := Reserve.le_capacity_of_takeFirst taken
      omega
    | fresh aside _ missing short => exact absurd short (Nat.not_le_of_lt long)
    | beyond aside => exact ⟨aside, rfl⟩
  obtain ⟨aside, drawn⟩ := drawn
  have lent : (trade.ready place).desk.lend size =
      (.error (.panicked .capacityOverflow),
        (trade.ready place).desk.amend [.request size] aside) := by
    unfold Desk.lend
    rw [drawn]
  refine ⟨?_, long, ?_, ?_⟩
  · show Reply.ofAnswer _ ((trade.ready place).desk.lend size).1 = _
    rw [lent]
    rfl
  · exact congrArg (·.2.lender.loans) lent
  · exact congrArg (·.2.lender.nextToken) lent

/-- A loan for which the heap has a place comes about, unless no block can be so long. -/
theorem Housed.lend {trade : Trade} (housed : trade.Housed) {size place : Nat}
    (houses : trade.Houses ⟨.lend size, place⟩) :
    trade.answer ⟨.lend size, place⟩ = .failed (.panicked .capacityOverflow) ∧
        trade.desk.lender.Beyond (trade.take ⟨.lend size, place⟩).desk.lender size ∨
      ∃ block, trade.answer ⟨.lend size, place⟩ =
          .loan block.address trade.desk.lender.nextToken ∧
        trade.desk.lender.Granted (trade.take ⟨.lend size, place⟩).desk.lender size block := by
  by_cases long : Word.longestBlock < size
  · exact Or.inl (beyond_of_long housed long)
  obtain ⟨custody, -, spaced, -⟩ := housed.tended.roomy
  obtain ⟨block, room, entered, answer⟩ :=
    granted custody spaced (Nat.le_of_not_lt long) houses.1.1
  have loans := LoanBook.perm_of_enter entered
  have lent : (trade.take ⟨.lend size, place⟩).Holds block :=
    ⟨.pinned, Or.inl ⟨_, loans.mem_iff.mpr List.mem_cons_self, rfl⟩⟩
  refine Or.inr ⟨block, answer, (housed.take houses).present block lent room.solid,
    fun loan member => ?_, loans, ?_⟩
  · exact address_ne room.solid (spaced.lies loan member).2
      (room.apart .pinned _ nofun (Or.inl ⟨loan, member, rfl⟩))
  · have outcome := (trade.ready place).desk.lent size
    have answered : Reply.ofAnswer (fun grant => .loan grant.1 grant.2)
        ((trade.ready place).desk.lend size).1 = .loan block.address _ := answer
    show ((trade.ready place).desk.lend size).2.lender.nextToken = _
    generalize (trade.ready place).desk.lend size = result at outcome answered
    cases outcome with
    | refused fault after => cases answered
    | granted block after long accepted policy token => exact token

/-! ### The tokens of a turn -/

/-- Only a loan is answered with a token. -/
theorem token?_answer (trade : Trade) {turn : Turn} (other : turn.deed.isLend = false) :
    (trade.answer turn).token? = none := by
  have carried : ∀ {Answer : Type} {carry : Answer → Reply},
      (∀ answer, (carry answer).token? = none) →
        ∀ outcome, (Reply.ofAnswer carry outcome).token? = none := by
    intro Answer carry silent outcome
    cases outcome with
    | ok answer => exact silent answer
    | error fault => rfl
  unfold answer
  obtain ⟨deed, place⟩ := turn
  cases deed with
  | lend size => cases other
  | handIn block =>
    unfold perform
    dsimp only
    split <;> rfl
  | rent size => exact carried (fun _ => rfl) _
  | reclaim address token => exact carried (fun _ => rfl) _
  | share address size => exact carried (fun _ => rfl) _
  | giveBack address => exact carried (fun _ => rfl) _
  | takeLease address size => exact carried (fun _ => rfl) _
  | reach address size => exact carried (fun _ => rfl) _
  | _ => rfl

/-- A turn for which the heap has a place uses the token up that it is answered with. -/
theorem Housed.follows_take {trade : Trade} (housed : trade.Housed) {turn : Turn}
    (houses : trade.Houses turn) {granted : List Token}
    (follows : trade.desk.lender.nextToken.Follows granted) :
    (trade.take turn).desk.lender.nextToken.Follows
      ((trade.answer turn).token?.toList ++ granted) := by
  by_cases other : turn.deed.isLend = false
  · rw [trade.token?_answer other,
      show (trade.take turn).desk.lender.nextToken = _ from
        (trade.ready turn.place).token_perform other]
    exact follows
  · obtain ⟨deed, place⟩ := turn
    cases deed with
    | lend size =>
      rcases housed.lend houses with ⟨answer, beyond⟩ | ⟨block, answer, lent⟩
      · rw [answer, beyond.token]
        exact follows
      · rw [answer, lent.token]
        exact follows.grant
    | _ => exact absurd rfl other

end Trade

/-! ### The lenders of an office -/

namespace Office

/-- The next token of each lender comes after those that it has granted. -/
def Ticketed (office : Office) (granted : Nat → List Token) : Prop :=
  ∀ lender < office.lenders.size,
    (office.lender lender).nextToken.Follows (granted lender)

/-- The desks of an office are in order, and so are its tokens. -/
structure InOrder (office : Office) (rented : Nat → List Block) (granted : Nat → List Token) :
    Prop where
  orderly : office.Orderly rented
  ticketed : office.Ticketed granted

/-- The next token of each lender. -/
def tokens (office : Office) : Array Token := office.lenders.map Lender.nextToken

theorem nextToken_eq (office : Office) (lender : Nat) :
    (office.lender lender).nextToken =
      office.tokens.getD lender (Inhabited.default : Lender).nextToken := by
  unfold Office.lender tokens
  simp only [Array.getD_eq_getD_getElem?, Array.getElem?_map]
  cases office.lenders[lender]? <;> rfl

/-- What keeps the desks in order and uses no tokens. -/
def Keeps (before after : Office) : Prop := before.Upholds after ∧ after.tokens = before.tokens

theorem Keeps.inOrder {before after : Office} (keeps : before.Keeps after)
    {rented : Nat → List Block} {granted : Nat → List Token}
    (inOrder : before.InOrder rented granted) : after.InOrder rented granted := by
  obtain ⟨⟨size, upholds⟩, same⟩ := keeps
  refine ⟨upholds rented inOrder.orderly, fun lender inRange => ?_⟩
  rw [size] at inRange
  rw [nextToken_eq, same, ← nextToken_eq]
  exact inOrder.ticketed lender inRange

theorem routine_tokens : Routine fun before after => after.tokens = before.tokens := by
  have routine := @Routine.of_lenders _ Lender.nextToken (fun _ _ => rfl)
    (fun desk address token => (desk.reclaim_keeps address token).1)
    fun desk replica => congrArg (·.2.1)
      (show (desk.endLease replica).books = desk.books from
        Desk.overlooks_books.endLease desk fun _ _ _ => rfl)
  exact routine.comp (·.2.2)

theorem routine_keeps : Routine Keeps := routine_upholds.and routine_tokens

/-! ### Loans of an office -/

open Process (grant)

theorem grant_nil (granted : Nat → List Token) (lender : Option Nat) :
    grant granted lender [] = granted := by
  cases lender with
  | none => rfl
  | some lender => exact Function.update_eq_self lender granted

theorem grant_append (granted : Nat → List Token) (lender : Option Nat)
    (first second : List Token) :
    grant (grant granted lender first) lender second = grant granted lender (first ++ second) := by
  cases lender with
  | none => rfl
  | some lender =>
    unfold grant
    dsimp only
    rw [Function.update_idem, Function.update_self, List.reverse_append, List.append_assoc]

theorem Ticketed.withDesk {office : Office} {granted : Nat → List Token}
    (ticketed : office.Ticketed granted) {index : Nat} {desk : Desk} {tokens : List Token}
    (follows : index < office.lenders.size →
      desk.lender.nextToken.Follows (tokens.reverse ++ granted index)) :
    (office.withDesk index desk).Ticketed (grant granted (some index) tokens) := by
  intro lender inRange
  rw [size_withDesk] at inRange
  rw [lender_withDesk]
  unfold grant
  dsimp only
  by_cases here : index = lender
  · subst here
    rw [if_pos ⟨rfl, inRange⟩, Function.update_self]
    exact follows inRange
  · rw [if_neg fun both => here both.1, Function.update_of_ne (Ne.symm here)]
    exact ticketed lender inRange

section Lend

variable {office : Office} {rented : Nat → List Block} {granted : Nat → List Token}
  {index size : Nat}
  (houses : (office.tradeOf index (rented index) []).Houses
    ⟨.lend size, office.arena.nextAddress⟩)

include houses

/-- A loan for which the heap has a place comes about, unless no block can be so long. -/
theorem Orderly.lent (orderly : office.Orderly rented) (inRange : index < office.lenders.size) :
    (∃ desk, (office.desk index).lend size = (.error (.panicked .capacityOverflow), desk) ∧
        (office.lender index).Beyond desk.lender size) ∨
      ∃ block desk, (office.desk index).lend size =
          (.ok (block.address, (office.lender index).nextToken), desk) ∧
        (office.lender index).Granted desk.lender size block := by
  obtain ⟨record, housed⟩ := orderly index inRange
  have level : (office.arena.announce [office.arena.nextAddress]).Level office.arena := ⟨rfl, rfl⟩
  obtain ⟨placed, -, lent⟩ := (office.desk index).lend_level level rfl size
  have outcome := housed.lend (Trade.houses_of_record houses record)
  have answer : Trade.answer (office.tradeOf index (rented index) record)
      ⟨.lend size, office.arena.nextAddress⟩ =
        Reply.ofAnswer (fun grant => .loan grant.1 grant.2) ((office.desk index).lend size).1 := by
    show Reply.ofAnswer _ (Desk.lend { office.desk index with
      arena := office.arena.announce [office.arena.nextAddress] } size).1 = _
    rw [lent]
  have lender : ((office.tradeOf index (rented index) record).take
      ⟨.lend size, office.arena.nextAddress⟩).desk.lender =
        ((office.desk index).lend size).2.lender := congrArg (·.2.lender) lent
  rw [answer, lender] at outcome
  generalize (office.desk index).lend size = result at outcome
  obtain ⟨fault | ⟨address, token⟩, desk⟩ := result
  · rcases outcome with ⟨failed, beyond⟩ | ⟨block, answered, -⟩
    · cases failed
      exact Or.inl ⟨desk, rfl, beyond⟩
    · cases answered
  · rcases outcome with ⟨failed, -⟩ | ⟨block, answered, granted⟩
    · cases failed
    · cases answered
      exact Or.inr ⟨block, desk, rfl, granted⟩

theorem InOrder.lend (inOrder : office.InOrder rented granted) {answer : Nat × Token}
    {desk : Desk} (lent : (office.desk index).lend size = (.ok answer, desk)) :
    (office.withDesk index desk).InOrder rented (grant granted (some index) [answer.2]) where
  orderly := by
    have orderly := inOrder.orderly.lend houses
    rw [lent] at orderly
    exact orderly
  ticketed := by
    refine inOrder.ticketed.withDesk fun inRange => ?_
    rcases inOrder.orderly.lent houses inRange with ⟨_, failed, -⟩ | ⟨block, _, given, entered⟩
    · cases lent.symm.trans failed
    · cases lent.symm.trans given
      rw [entered.token]
      exact (inOrder.ticketed index inRange).grant

end Lend

end Office

end MemoryLending
