/-
This file proves what the book of loans keeps and what its lookups find. A book is sound when
its bases increase, each loan ends before the next one begins, and no loan runs past the last
address. On an ordered book bisection splits the loans at an address, so the two neighbours
that an entry looks at are the only loans it can conflict with, and the nearest lower base is
the only loan a range can lie in. The entries and the strikes of a sound book leave it sound.
-/

import Mathlib.Algebra.GroupWithZero.Nat
import Mathlib.Data.List.Perm.Basic
import MemoryLending.Loan

namespace MemoryLending

namespace Word

/-- A sum has a value exactly if the exact sum is a machine word: partial sums are no greater. -/
theorem foldlM_add? (terms : List Nat) {total : Nat} (fits : total < limit) :
    terms.foldlM add? total =
      if total + terms.sum < limit then some (total + terms.sum) else none := by
  induction terms generalizing total with
  | nil => exact (if_pos fits).symm
  | cons term rest inductionHypothesis =>
    rw [List.foldlM_cons, List.sum_cons, ← Nat.add_assoc]
    by_cases next : total + term < limit
    · rw [add?_of_lt next]
      exact inductionHypothesis next
    · have none : add? total term = none := if_neg next
      rw [none, if_neg (by omega)]
      rfl

theorem sum?_eq (terms : List Nat) :
    sum? terms = if terms.sum < limit then some terms.sum else none := by
  unfold sum?
  rw [foldlM_add? terms (by decide), Nat.zero_add]

theorem sum?_of_lt (terms : List Nat) (fits : terms.sum < limit) :
    sum? terms = some terms.sum :=
  (sum?_eq terms).trans (if_pos fits)

/-- The order of the terms does not matter. -/
theorem sum?_congr {terms terms' : List Nat} (same : terms.Perm terms') :
    sum? terms = sum? terms' := by
  rw [sum?_eq, sum?_eq, same.sum_nat]

end Word

/-- The left loan begins and ends before the right one begins. A loan of no bytes ends where it
begins. -/
def Loan.Precedes (left right : Loan) : Prop :=
  left.base < right.base ∧ left.base + left.length ≤ right.base

namespace LoanBook

/-- The bases increase. -/
def Ordered (book : LoanBook) : Prop :=
  book.toList.Pairwise fun lower upper => lower.base < upper.base

/-- The loans stand one before the other, and none runs past the last address. -/
structure Sound (book : LoanBook) : Prop where
  apart : book.toList.Pairwise Loan.Precedes
  bounded : ∀ loan ∈ book.toList, loan.base + loan.length < Word.limit

theorem ordered_of_apart {book : LoanBook} (apart : book.toList.Pairwise Loan.Precedes) :
    book.Ordered :=
  apart.imp And.left

theorem Sound.ordered {book : LoanBook} (sound : book.Sound) : book.Ordered :=
  ordered_of_apart sound.apart

theorem sound_empty : empty.Sound :=
  ⟨List.Pairwise.nil, fun _ member => absurd member List.not_mem_nil⟩

theorem getElem?_toList (book : LoanBook) (place : Nat) :
    book.toList[place]? = book.loans[place]? :=
  Array.getElem?_toList

/-- An ordered book has one loan at each base. -/
theorem Ordered.eq_of_base {book : LoanBook} (ordered : book.Ordered) {first second : Loan}
    (memberFirst : first ∈ book.toList) (memberSecond : second ∈ book.toList)
    (same : first.base = second.base) : first = second := by
  obtain ⟨place, bound, rfl⟩ := List.mem_iff_getElem.mp memberFirst
  obtain ⟨place', bound', rfl⟩ := List.mem_iff_getElem.mp memberSecond
  have increasing := List.pairwise_iff_getElem.mp ordered
  rcases Nat.lt_trichotomy place place' with before | rfl | after
  · exact absurd same (Nat.ne_of_lt (increasing place place' bound bound' before))
  · rfl
  · exact absurd same.symm (Nat.ne_of_lt (increasing place' place bound' bound after))

theorem Ordered.nodup_bases {book : LoanBook} (ordered : book.Ordered) :
    (book.toList.map Loan.base).Nodup :=
  List.pairwise_map.mpr (ordered.imp Nat.ne_of_lt)

/-! ### Bisection -/

theorem bisect_bounds (loans : Array Loan) (address low high : Nat) (start : low ≤ high) :
    low ≤ bisect loans address low high ∧ bisect loans address low high ≤ high := by
  fun_induction bisect loans address low high with
  | case1 low high inside middle loan found below inductionHypothesis =>
    have := inductionHypothesis (by omega)
    omega
  | case2 low high inside middle loan found above inductionHypothesis =>
    have := inductionHypothesis (by omega)
    omega
  | case3 low high inside middle missing => omega
  | case4 low high outside => omega

theorem rank_le (book : LoanBook) (address : Nat) : book.rank address ≤ book.toList.length :=
  (bisect_bounds book.loans address 0 book.loans.size (Nat.zero_le _)).2

/-- Bisection keeps the loans before `low` below the address and the loans from `high` on at or
above it, and so it ends at the place that divides them. -/
theorem bisect_divides (book : LoanBook) (ordered : book.Ordered) (address low high : Nat)
    (start : low ≤ high) (inside : high ≤ book.loans.size)
    (below : ∀ place loan, book.loans[place]? = some loan → place < low → loan.base < address)
    (above : ∀ place loan, book.loans[place]? = some loan → high ≤ place →
      address ≤ loan.base) :
    (∀ place loan, book.loans[place]? = some loan →
        place < bisect book.loans address low high → loan.base < address) ∧
      ∀ place loan, book.loans[place]? = some loan →
        bisect book.loans address low high ≤ place → address ≤ loan.base := by
  have increasing : ∀ (place place' : Nat) (loan loan' : Loan), book.loans[place]? = some loan →
      book.loans[place']? = some loan' → place < place' → loan.base < loan'.base := by
    intro place place' loan loan' found found' before
    rw [← getElem?_toList] at found found'
    obtain ⟨bound, rfl⟩ := List.getElem?_eq_some_iff.mp found
    obtain ⟨bound', rfl⟩ := List.getElem?_eq_some_iff.mp found'
    exact List.pairwise_iff_getElem.mp ordered place place' bound bound' before
  fun_induction bisect book.loans address low high with
  | case1 low high inside' middle loan found smaller inductionHypothesis =>
    refine inductionHypothesis (by omega) inside (fun place loan' found' before => ?_) above
    by_cases same : place = middle
    · subst same
      rw [found] at found'
      exact Option.some.inj found' ▸ smaller
    · have := increasing place middle loan' loan found' found (by omega)
      omega
  | case2 low high inside' middle loan found larger inductionHypothesis =>
    refine inductionHypothesis (by omega) (by omega) below (fun place loan' found' after => ?_)
    by_cases same : place = middle
    · subst same
      rw [found] at found'
      have := Option.some.inj found' ▸ larger
      omega
    · have := increasing middle place loan loan' found found' (by omega)
      omega
  | case3 low high inside' middle missing =>
    rw [Array.getElem?_eq_none_iff] at missing
    omega
  | case4 low high outside =>
    have same : low = high := by omega
    exact ⟨below, same ▸ above⟩

/-- The rank of an address divides an ordered book into the loans with a lower base and the
others. -/
theorem exists_split (book : LoanBook) (ordered : book.Ordered) (address : Nat) :
    ∃ lower upper, book.toList = lower ++ upper ∧ book.rank address = lower.length ∧
      (∀ loan ∈ lower, loan.base < address) ∧ ∀ loan ∈ upper, address ≤ loan.base := by
  obtain ⟨below, above⟩ := bisect_divides book ordered address 0 book.loans.size
    (Nat.zero_le _) (Nat.le_refl _) (fun _ _ _ before => absurd before (Nat.not_lt_zero _))
    (fun place loan found after => by
      rw [Array.getElem?_eq_none_iff.mpr after] at found
      cases found)
  refine ⟨book.toList.take (book.rank address), book.toList.drop (book.rank address),
    (List.take_append_drop _ _).symm, ?_, fun loan member => ?_, fun loan member => ?_⟩
  · rw [List.length_take, Nat.min_eq_left (book.rank_le address)]
  · obtain ⟨place, bound, rfl⟩ := List.mem_take_iff_getElem.mp member
    exact below place _ (by rw [← getElem?_toList, List.getElem?_eq_getElem])
      (Nat.lt_of_lt_of_le bound (Nat.min_le_left _ _))
  · obtain ⟨place, bound, rfl⟩ := List.mem_drop_iff_getElem.mp member
    exact above (book.rank address + place) _
      (by rw [← getElem?_toList, List.getElem?_eq_getElem]) (Nat.le_add_right _ _)

/-! ### Lookups -/

/-- A loan found at a base stands at the rank of that base. -/
theorem getElem?_rank_of_at? (book : LoanBook) {base : Nat} {loan : Loan}
    (found : book.at? base = some loan) :
    book.toList[book.rank base]? = some loan ∧ loan.base = base := by
  unfold at? at found
  rw [← getElem?_toList] at found
  split at found
  · rename_i candidate here
    by_cases same : candidate.base = base
    · rw [if_pos same, Option.some.injEq] at found
      exact ⟨found ▸ here, found ▸ same⟩
    · rw [if_neg same] at found
      cases found
  · cases found

theorem mem_of_at? (book : LoanBook) {base : Nat} {loan : Loan}
    (found : book.at? base = some loan) : loan ∈ book.toList :=
  List.mem_of_getElem? (book.getElem?_rank_of_at? found).1

section Split

variable {book : LoanBook} {address : Nat} {lower upper : List Loan}
  (parts : book.toList = lower ++ upper) (place : book.rank address = lower.length)

include parts place

theorem getElem?_rank_of_split : book.toList[book.rank address]? = upper.head? := by
  rw [parts, place, List.getElem?_append_right (Nat.le_refl _), Nat.sub_self,
    List.head?_eq_getElem?]

theorem above?_of_split : book.above? address = upper.head? := by
  rw [above?, ← getElem?_toList, getElem?_rank_of_split parts place]

theorem below?_of_split : book.below? address = lower.getLast? := by
  unfold below?
  rw [place]
  cases size : lower.length with
  | zero => rw [List.length_eq_zero_iff.mp size, List.getLast?_nil]
  | succ last =>
    show book.loans[last]? = lower.getLast?
    rw [← getElem?_toList, parts, List.getElem?_append_left (by omega),
      List.getLast?_eq_getElem?, size, Nat.add_sub_cancel]

theorem at?_of_split :
    book.at? address = upper.head?.filter fun loan => loan.base == address := by
  unfold at?
  rw [← getElem?_toList, getElem?_rank_of_split parts place]
  cases upper.head? with
  | none => rfl
  | some loan => by_cases same : loan.base = address <;> simp [same, Option.filter]

end Split

/-- On an ordered book the lookup by base finds exactly the loan with that base. -/
theorem at?_eq_some_iff {book : LoanBook} (ordered : book.Ordered) {base : Nat} {loan : Loan} :
    book.at? base = some loan ↔ loan ∈ book.toList ∧ loan.base = base := by
  constructor
  · intro found
    exact ⟨book.mem_of_at? found, (book.getElem?_rank_of_at? found).2⟩
  · rintro ⟨member, same⟩
    obtain ⟨lower, upper, parts, place, below, above⟩ := book.exists_split ordered base
    have inUpper : loan ∈ upper := by
      rw [parts, List.mem_append] at member
      rcases member with inLower | inUpper
      · exact absurd same (Nat.ne_of_lt (below loan inLower))
      · exact inUpper
    rw [at?_of_split parts place]
    cases upper with
    | nil => cases inUpper
    | cons head rest =>
      have headBase : head.base = base := by
        rcases List.mem_cons.mp inUpper with rfl | inRest
        · exact same
        · rw [Ordered, parts, List.pairwise_append, List.pairwise_cons] at ordered
          have := ordered.2.1.1 loan inRest
          have := above head List.mem_cons_self
          omega
      have headMember : head ∈ book.toList := parts ▸ List.mem_append_right _ List.mem_cons_self
      rw [ordered.eq_of_base (parts ▸ List.mem_append_right _ inUpper) headMember
        (same.trans headBase.symm)]
      simp [headBase]

theorem at?_eq_none_iff {book : LoanBook} (ordered : book.Ordered) {base : Nat} :
    book.at? base = none ↔ ∀ loan ∈ book.toList, loan.base ≠ base := by
  rw [Option.eq_none_iff_forall_ne_some]
  constructor
  · intro missing loan member same
    exact missing loan ((at?_eq_some_iff ordered).mpr ⟨member, same⟩)
  · intro absent loan found
    exact absent loan (book.mem_of_at? found) ((at?_eq_some_iff ordered).mp found).2

/-! ### Entering a loan -/

theorem checkEnd_eq_ok_iff {loan : Loan} {bound : Nat} {violation : Violation}
    (fits : loan.base + loan.length < Word.limit) :
    checkEnd loan bound violation = .ok () ↔ loan.base + loan.length ≤ bound := by
  unfold checkEnd
  rw [Word.add?_of_lt fits]
  by_cases past : bound < loan.base + loan.length
  · simp [past]
  · simp [Nat.le_of_not_lt past, past]

/-- A loan that ends at a machine word may end where the next one begins. -/
theorem checkEnd_of_le {loan : Loan} {bound : Nat} {violation : Violation}
    (ends : loan.base + loan.length ≤ bound) (small : bound < Word.limit) :
    checkEnd loan bound violation = .ok () :=
  (checkEnd_eq_ok_iff (Nat.lt_of_le_of_lt ends small)).mpr ends

/-- What an accepted loan has in front of it: no loan at its base, a lower neighbour that ends
before it, and an upper neighbour that begins after it. -/
theorem checkRoom_eq_ok_iff {book : LoanBook} {loan : Loan} :
    book.checkRoom loan = .ok () ↔
      book.at? loan.base = none ∧
        (∀ lower ∈ book.below? loan.base,
          checkEnd lower loan.base (.overlap loan.base loan.length lower.base) = .ok ()) ∧
        ∀ upper ∈ book.above? loan.base,
          checkEnd loan upper.base (.overlap loan.base loan.length upper.base) = .ok () := by
  unfold checkRoom
  cases book.at? loan.base with
  | some other => simp
  | none =>
    cases book.below? loan.base with
    | none => cases book.above? loan.base <;> simp [bind, Except.bind]
    | some lower =>
      simp only [bind, Except.bind, Option.isSome_none, Bool.false_eq_true, if_false,
        Option.mem_def, Option.some.injEq, forall_eq', true_and]
      cases checkEnd lower loan.base (.overlap loan.base loan.length lower.base) with
      | error fault => simp
      | ok _ => cases book.above? loan.base <;> simp

theorem toList_of_enter {book entered : LoanBook} {loan : Loan}
    (accepted : book.enter loan = .ok entered) :
    entered.toList = book.toList.insertIdx (book.rank loan.base) loan := by
  unfold enter at accepted
  split at accepted
  · cases accepted
    show (book.toList.toArray.insertIdxIfInBounds _ loan).toList = _
    rw [List.insertIdxIfInBounds_toArray]
  · cases accepted

/-- Entering a loan adds it and loses no other. -/
theorem perm_of_enter {book entered : LoanBook} {loan : Loan}
    (accepted : book.enter loan = .ok entered) :
    entered.toList.Perm (loan :: book.toList) := by
  rw [toList_of_enter accepted]
  exact List.perm_insertIdx loan book.toList (book.rank_le loan.base)

theorem mem_of_enter {book entered : LoanBook} {loan : Loan}
    (accepted : book.enter loan = .ok entered) {other : Loan} :
    other ∈ entered.toList ↔ other = loan ∨ other ∈ book.toList :=
  (perm_of_enter accepted).mem_iff.trans List.mem_cons

theorem checkRoom_of_enter {book entered : LoanBook} {loan : Loan}
    (accepted : book.enter loan = .ok entered) : book.checkRoom loan = .ok () := by
  unfold enter at accepted
  split at accepted
  · assumption
  · cases accepted

theorem exists_enter {book : LoanBook} {loan : Loan} (room : book.checkRoom loan = .ok ()) :
    ∃ entered, book.enter loan = .ok entered := by
  unfold enter
  rw [room]
  exact ⟨_, rfl⟩

theorem checkRoom_of_enter_error {book : LoanBook} {loan : Loan} {fault : Fault}
    (failed : book.enter loan = .error fault) : book.checkRoom loan = .error fault := by
  unfold enter at failed
  split at failed
  · cases failed
  · rename_i fault' room
    cases failed
    exact room

/-- Why room was denied: a loan at the same base, the loan below, or the loan above. -/
inductive Denied (book : LoanBook) (loan : Loan) : Fault → Prop where
  | duplicate (live : Loan) (found : book.at? loan.base = some live) :
      Denied book loan (.refused (.duplicate loan.base))
  | below (lower : Loan) (fault : Fault) (vacant : book.at? loan.base = none)
      (found : book.below? loan.base = some lower)
      (failed : checkEnd lower loan.base (.overlap loan.base loan.length lower.base) =
        .error fault) : Denied book loan fault
  | above (upper : Loan) (fault : Fault) (vacant : book.at? loan.base = none)
      (found : book.above? loan.base = some upper)
      (failed : checkEnd loan upper.base (.overlap loan.base loan.length upper.base) =
        .error fault) : Denied book loan fault

theorem denied_of_checkRoom {book : LoanBook} {loan : Loan} {fault : Fault}
    (failed : book.checkRoom loan = .error fault) : book.Denied loan fault := by
  unfold checkRoom at failed
  cases vacant : book.at? loan.base with
  | some live =>
    rw [vacant] at failed
    cases failed
    exact .duplicate live vacant
  | none =>
    rw [vacant] at failed
    -- The loan above is looked at whether there is no loan below or one that ends in time.
    cases foundBelow : book.below? loan.base with
    | none =>
      rw [foundBelow] at failed
      cases foundAbove : book.above? loan.base with
      | none =>
        rw [foundAbove] at failed
        cases failed
      | some upper =>
        rw [foundAbove] at failed
        exact .above upper fault vacant foundAbove failed
    | some lower =>
      rw [foundBelow] at failed
      rcases ends : checkEnd lower loan.base (.overlap loan.base loan.length lower.base) with
        fault' | ⟨⟩
      · simp only [bind, Except.bind, ends, Option.isSome_none, Bool.false_eq_true, if_false]
          at failed
        cases failed
        exact .below lower fault vacant foundBelow ends
      · simp only [bind, Except.bind, ends, Option.isSome_none, Bool.false_eq_true, if_false]
          at failed
        cases foundAbove : book.above? loan.base with
        | none =>
          rw [foundAbove] at failed
          cases failed
        | some upper =>
          rw [foundAbove] at failed
          exact .above upper fault vacant foundAbove failed

theorem insertIdx_length_append (lower upper : List Loan) (loan : Loan) :
    (lower ++ upper).insertIdx lower.length loan = lower ++ loan :: upper := by
  induction lower with
  | nil => rfl
  | cons head rest inductionHypothesis =>
    rw [List.cons_append, List.length_cons, List.insertIdx_succ_cons, inductionHypothesis]
    rfl

/-- When the last of some loans ends before a new one, the others do, which end before the last
one begins. -/
theorem precedes_of_last {lower : List Loan} {loan last : Loan}
    (apart : lower.Pairwise Loan.Precedes) (here : lower.getLast? = some last)
    (ends : last.base + last.length ≤ loan.base) (below : ∀ other ∈ lower, other.base < loan.base) :
    ∀ other ∈ lower, other.Precedes loan := by
  obtain ⟨front, rfl⟩ := List.getLast?_eq_some_iff.mp here
  refine fun other member => ⟨below other member, ?_⟩
  rcases List.mem_append.mp member with inFront | isLast
  · have before := (List.pairwise_append.mp apart).2.2 other inFront last List.mem_cons_self
    exact Nat.le_trans before.2 (Nat.le_trans (Nat.le_add_right _ _) ends)
  · exact List.mem_singleton.mp isLast ▸ ends

theorem precedes_of_head {upper : List Loan} {loan head : Loan}
    (apart : upper.Pairwise Loan.Precedes) (here : upper.head? = some head)
    (begins : loan.base + loan.length ≤ head.base)
    (above : ∀ other ∈ upper, loan.base < other.base) : ∀ other ∈ upper, loan.Precedes other := by
  obtain ⟨rest, rfl⟩ := List.head?_eq_some_iff.mp here
  refine fun other member => ⟨above other member, ?_⟩
  rcases List.mem_cons.mp member with rfl | inRest
  · exact begins
  · have behind := (List.pairwise_cons.mp apart).1 other inRest
    exact Nat.le_trans begins (Nat.le_of_lt behind.1)

/-- A loan that stands before or after every loan in the book is accepted. -/
theorem checkRoom_of_clear {book : LoanBook} {loan : Loan} (ordered : book.Ordered)
    (small : ∀ other ∈ loan :: book.toList, other.base < Word.limit)
    (clear : ∀ other ∈ book.toList, other.Precedes loan ∨ loan.Precedes other) :
    book.checkRoom loan = .ok () := by
  obtain ⟨lower, upper, parts, place, below, above⟩ := book.exists_split ordered loan.base
  rw [checkRoom_eq_ok_iff, at?_eq_none_iff ordered, below?_of_split parts place,
    above?_of_split parts place]
  rw [parts] at clear small ⊢
  refine ⟨fun other member same => ?_, fun other last => ?_, fun other first => ?_⟩
  · rcases clear other member with before | after
    · exact Nat.ne_of_lt before.1 same
    · exact Nat.ne_of_lt after.1 same.symm
  · have inLower : other ∈ lower := List.mem_of_getLast? last
    refine checkEnd_of_le ?_ (small loan List.mem_cons_self)
    rcases clear other (List.mem_append_left _ inLower) with before | after
    · exact before.2
    · exact absurd (below other inLower) (Nat.lt_asymm after.1)
  · have inUpper : other ∈ upper := List.mem_of_head? first
    have member : other ∈ lower ++ upper := List.mem_append_right _ inUpper
    refine checkEnd_of_le ?_ (small other (List.mem_cons_of_mem _ member))
    rcases clear other member with before | after
    · exact absurd before.1 (Nat.not_lt_of_le (above other inUpper))
    · exact after.2

/-- The two neighbours stand for all: a loan is accepted exactly if it stands before or after
every loan in the book. -/
theorem checkRoom_eq_ok_iff_apart {book : LoanBook} {loan : Loan} (sound : book.Sound)
    (fits : loan.base + loan.length < Word.limit) :
    book.checkRoom loan = .ok () ↔
      ∀ other ∈ book.toList, other.Precedes loan ∨ loan.Precedes other := by
  have small : ∀ other ∈ loan :: book.toList, other.base < Word.limit :=
    List.forall_mem_cons.mpr ⟨Nat.lt_of_le_of_lt (Nat.le_add_right _ _) fits,
      fun other member => Nat.lt_of_le_of_lt (Nat.le_add_right _ _) (sound.bounded other member)⟩
  refine ⟨fun room other member => ?_, checkRoom_of_clear sound.ordered small⟩
  obtain ⟨lower, upper, parts, place, below, above⟩ :=
    book.exists_split sound.ordered loan.base
  rw [checkRoom_eq_ok_iff, at?_eq_none_iff sound.ordered, below?_of_split parts place,
    above?_of_split parts place] at room
  obtain ⟨vacant, room, roomAfter⟩ := room
  have apart := sound.apart
  have bounded := sound.bounded
  rw [parts] at apart bounded vacant member
  have apartLower := (List.pairwise_append.mp apart).1
  have apartUpper := (List.pairwise_append.mp apart).2.1
  rcases List.mem_append.mp member with inLower | inUpper
  · have here := List.getLast?_eq_some_getLast (List.ne_nil_of_mem inLower)
    have last := List.mem_append_left upper (List.mem_of_getLast? here)
    have ends := (checkEnd_eq_ok_iff (bounded _ last)).mp (room _ here)
    exact Or.inl (precedes_of_last apartLower here ends below other inLower)
  · have here := List.head?_eq_some_head (List.ne_nil_of_mem inUpper)
    have begins := (checkEnd_eq_ok_iff fits).mp (roomAfter _ here)
    refine Or.inr (precedes_of_head apartUpper here begins (fun next inUpper => ?_) other inUpper)
    exact Nat.lt_of_le_of_ne (above next inUpper)
      (Ne.symm (vacant next (List.mem_append_right lower inUpper)))

/-- A loan that is accepted takes its place in the order. -/
theorem apart_of_enter {book entered : LoanBook} {loan : Loan}
    (apart : book.toList.Pairwise Loan.Precedes)
    (clear : ∀ other ∈ book.toList, other.Precedes loan ∨ loan.Precedes other)
    (accepted : book.enter loan = .ok entered) : entered.toList.Pairwise Loan.Precedes := by
  obtain ⟨lower, upper, parts, place, below, above⟩ :=
    book.exists_split (ordered_of_apart apart) loan.base
  rw [parts] at clear
  rw [parts, List.pairwise_append] at apart
  have lowerClear : ∀ other ∈ lower, other.Precedes loan := fun other member =>
    (clear other (List.mem_append_left _ member)).resolve_right fun after =>
      Nat.lt_asymm after.1 (below other member)
  have upperClear : ∀ other ∈ upper, loan.Precedes other := fun other member =>
    (clear other (List.mem_append_right _ member)).resolve_left fun before =>
      Nat.not_lt_of_le (above other member) before.1
  rw [toList_of_enter accepted, place, parts, insertIdx_length_append, List.pairwise_append,
    List.pairwise_cons]
  refine ⟨apart.1, ⟨upperClear, apart.2.1⟩, fun other member next nextMember => ?_⟩
  rcases List.mem_cons.mp nextMember with rfl | inUpper
  · exact lowerClear other member
  · exact apart.2.2 other member next inUpper

theorem Sound.enter {book entered : LoanBook} {loan : Loan} (sound : book.Sound)
    (fits : loan.base + loan.length < Word.limit) (accepted : book.enter loan = .ok entered) :
    entered.Sound := by
  have clear := (checkRoom_eq_ok_iff_apart sound fits).mp (checkRoom_of_enter accepted)
  refine ⟨apart_of_enter sound.apart clear accepted, fun other member => ?_⟩
  rcases (mem_of_enter accepted).mp member with rfl | inBook
  · exact fits
  · exact sound.bounded other inBook

/-! ### Striking a loan -/

theorem strike_of_at?_eq_none {book : LoanBook} {base : Nat} (missing : book.at? base = none) :
    book.strike base = book := by
  simp [strike, missing]

theorem toList_strike {book : LoanBook} {base : Nat} {loan : Loan}
    (found : book.at? base = some loan) :
    (book.strike base).toList = book.toList.eraseIdx (book.rank base) := by
  simp [strike, found, toList]

/-- Striking a loan takes out the one found and no other. -/
theorem perm_strike {book : LoanBook} {base : Nat} {loan : Loan}
    (found : book.at? base = some loan) :
    (loan :: (book.strike base).toList).Perm book.toList := by
  obtain ⟨bound, here⟩ := List.getElem?_eq_some_iff.mp (book.getElem?_rank_of_at? found).1
  rw [toList_strike found]
  exact here ▸ List.getElem_cons_eraseIdx_perm bound

theorem mem_of_strike {book : LoanBook} {base : Nat} {loan : Loan}
    (found : book.at? base = some loan) {other : Loan} :
    other ∈ book.toList ↔ other = loan ∨ other ∈ (book.strike base).toList :=
  (perm_strike found).mem_iff.symm.trans List.mem_cons

theorem strike_sublist (book : LoanBook) (base : Nat) :
    (book.strike base).toList.Sublist book.toList := by
  cases found : book.at? base with
  | none => rw [strike_of_at?_eq_none found]
  | some loan =>
    rw [toList_strike found]
    exact List.eraseIdx_sublist _ _

theorem Sound.strike {book : LoanBook} (sound : book.Sound) (base : Nat) :
    (book.strike base).Sound :=
  ⟨sound.apart.sublist (book.strike_sublist base),
    fun other member => sound.bounded other ((book.strike_sublist base).subset member)⟩

/-! ### Looking up a range -/

theorem find?_eq (book : LoanBook) (address size : Nat) :
    book.find? address size =
      ((book.at? address).or (book.below? address)).bind fun loan =>
        (loan.offset? address size).map fun offset => (loan, offset) := by
  unfold find?
  cases book.at? address <;> cases book.below? address <;> rfl

theorem mem_of_below? (book : LoanBook) {address : Nat} {loan : Loan}
    (found : book.below? address = some loan) : loan ∈ book.toList := by
  unfold below? at found
  split at found
  · cases found
  · rw [← getElem?_toList] at found
    exact List.mem_of_getElem? found

theorem mem_of_find? (book : LoanBook) {address size offset : Nat} {loan : Loan}
    (found : book.find? address size = some (loan, offset)) :
    loan ∈ book.toList ∧ loan.offset? address size = some offset := by
  rw [find?_eq, Option.bind_eq_some_iff] at found
  obtain ⟨candidate, here, inside⟩ := found
  obtain ⟨offset', inside', same⟩ := Option.map_eq_some_iff.mp inside
  obtain ⟨rfl, rfl⟩ := Prod.mk.inj same
  rcases Option.or_eq_some_iff.mp here with atBase | ⟨-, lower⟩
  · exact ⟨book.mem_of_at? atBase, inside'⟩
  · exact ⟨book.mem_of_below? lower, inside'⟩

/-- The loan a range lies in is the candidate: a later loan at or below the address would begin
inside it. -/
theorem candidate_of_inside {book : LoanBook} (apart : book.toList.Pairwise Loan.Precedes)
    {address : Nat} {loan : Loan} (member : loan ∈ book.toList) (begins : loan.base ≤ address)
    (ends : address < loan.base + loan.length) :
    (book.at? address).or (book.below? address) = some loan := by
  have ordered := ordered_of_apart apart
  obtain ⟨lower, upper, parts, place, below, above⟩ := book.exists_split ordered address
  rw [parts] at apart
  obtain ⟨apartLower, -, across⟩ := List.pairwise_append.mp apart
  by_cases same : loan.base = address
  · rw [(at?_eq_some_iff ordered).mpr ⟨member, same⟩, Option.some_or]
  · have inLower : loan ∈ lower := by
      rw [parts, List.mem_append] at member
      refine member.resolve_right fun inUpper => same ?_
      exact Nat.le_antisymm begins (above loan inUpper)
    have vacant : book.at? address = none := by
      refine (at?_eq_none_iff ordered).mpr fun other otherMember here => ?_
      rw [parts, List.mem_append] at otherMember
      rcases otherMember with otherLower | otherUpper
      · exact Nat.ne_of_lt (below other otherLower) here
      · have := (across loan inLower other otherUpper).2
        omega
    rw [vacant, Option.none_or, below?_of_split parts place]
    obtain ⟨front, last, rfl⟩ := (List.eq_nil_or_concat' lower).resolve_left
      (List.ne_nil_of_mem inLower)
    rw [List.getLast?_concat, Option.some.injEq]
    rcases List.mem_append.mp inLower with inFront | isLast
    · have := ((List.pairwise_append.mp apartLower).2.2 loan inFront last (by simp)).2
      have := below last (by simp)
      omega
    · exact (List.mem_singleton.mp isLast).symm

/-- Only one candidate is looked at, and still a range is found in a loan exactly if it lies in
it. -/
theorem find?_eq_some_iff {book : LoanBook} (sound : book.Sound) {address size offset : Nat}
    {loan : Loan} :
    book.find? address size = some (loan, offset) ↔
      loan ∈ book.toList ∧ loan.base + offset = address ∧ offset < loan.length ∧
        offset + size ≤ loan.length := by
  have short : ∀ other ∈ book.toList, other.length < Word.limit := fun other member =>
    Nat.lt_of_le_of_lt (Nat.le_add_left _ _) (sound.bounded other member)
  constructor
  · intro found
    obtain ⟨member, inside⟩ := book.mem_of_find? found
    exact ⟨member, (Loan.offset?_eq_some_iff (short loan member)).mp inside⟩
  · rintro ⟨member, begins, inside, fits⟩
    rw [find?_eq, candidate_of_inside sound.apart member (by omega) (by omega), Option.bind_some,
      (Loan.offset?_eq_some_iff (short loan member)).mpr ⟨begins, inside, fits⟩]
    rfl

/-- A range that begins inside a loan is found in that loan or nowhere. -/
theorem find?_of_begins {book : LoanBook}
    (apart : book.toList.Pairwise Loan.Precedes) {loan : Loan} (member : loan ∈ book.toList)
    (short : loan.length < Word.limit) {offset : Nat} (begins : offset < loan.length)
    (size : Nat) :
    book.find? (loan.base + offset) size =
      if offset + size ≤ loan.length then some (loan, offset) else none := by
  rw [find?_eq, candidate_of_inside apart member (Nat.le_add_right _ _)
    (Nat.add_lt_add_left begins _), Option.bind_some]
  by_cases inside : offset + size ≤ loan.length
  · rw [if_pos inside, (Loan.offset?_eq_some_iff short).mpr ⟨rfl, begins, inside⟩]
    rfl
  · rw [if_neg inside, Option.map_eq_none_iff, Option.eq_none_iff_forall_ne_some]
    intro other found
    obtain ⟨same, -, ends⟩ := (Loan.offset?_eq_some_iff short).mp found
    exact inside (Nat.add_left_cancel same ▸ ends)

/-! ### The bytes on loan -/

/-- Loans one before the other have no more bytes together than the range they lie in. -/
theorem sum_length_le {loans : List Loan} (apart : loans.Pairwise Loan.Precedes) (low high : Nat)
    (above : ∀ loan ∈ loans, low ≤ loan.base)
    (below : ∀ loan ∈ loans, loan.base + loan.length ≤ high) (range : low ≤ high) :
    low + (loans.map Loan.length).sum ≤ high := by
  induction loans generalizing low with
  | nil => simpa using range
  | cons loan rest inductionHypothesis =>
    rw [List.pairwise_cons] at apart
    have := inductionHypothesis apart.2 (loan.base + loan.length)
      (fun other member => (apart.1 other member).2)
      (fun other member => below other (List.mem_cons_of_mem _ member))
      (below loan List.mem_cons_self)
    have := above loan List.mem_cons_self
    rw [List.map_cons, List.sum_cons]
    omega

theorem bytes?_eq {book : LoanBook} (sound : book.Sound) :
    book.bytes? = some (book.toList.map Loan.length).sum := by
  have total := sum_length_le sound.apart 0 (Word.limit - 1)
    (fun _ _ => Nat.zero_le _)
    (fun loan member => Nat.le_sub_one_of_lt (sound.bounded loan member)) (Nat.zero_le _)
  have positive : 0 < Word.limit := by decide
  exact Word.sum?_of_lt _ (by omega)

end LoanBook

end MemoryLending
