/-
This file proves the reserve transparent. Which block is under a loan, whether it was used before,
and what other blocks were given up for it depend on the budget of the reserve; what a program
sees does not. Each client shows what the picture says: a lease ties every loan of the picture to
a loan of the book, the blocks of loans that are live or looked at are different, and in them
stand the bytes that were written. A block that is lent again is none of those, so that nothing
is written over before nobody can see it any more.
-/

import Mathlib.Data.List.ReduceOption
import MemoryLending.Proofs.Answers
import MemoryLending.Proofs.Picture

namespace MemoryLending

/-- Taking one entry out of a list of options. -/
theorem reduceOption_perm_set {Entry : Type} {entries : List (Option Entry)} {place : Nat}
    {entry : Entry} (here : entries[place]? = some (some entry)) :
    entries.reduceOption.Perm (entry :: (entries.set place none).reduceOption) := by
  induction entries generalizing place with
  | nil => cases here
  | cons first rest inductionHypothesis =>
    cases place with
    | zero =>
      obtain rfl := Option.some.inj here
      exact List.Perm.refl _
    | succ place =>
      have later := @inductionHypothesis place here
      cases first with
      | none => exact later
      | some other => exact (later.cons other).trans (List.Perm.swap _ _ _)

/-! ### What a client has of the picture -/

/-- The view that a glimpse is, when the loans are the leases. -/
def Glimpse.view (lease : Nat → Loan) (glimpse : Glimpse) : View :=
  View.ofLoan (lease glimpse.loan) glimpse.offset glimpse.length

/-- A loan of the book that is a loan of the picture. -/
structure Plot.Backed (plot : Plot) (loan : Loan) : Prop where
  token : loan.token = plot.token
  length : loan.length = plot.length
  lies : loan.Lies
  short : plot.length ≤ Word.longestBlock

/-- The client has what the picture shows. The loan with a number has the lease with that
number, in a block of its own as long as it is live or looked at, and what was written through
it is there. -/
structure Client.Depicts (client : Client) (picture : Picture) (lease : Nat → Loan) : Prop where
  roomy : client.trade.Roomy
  token : client.trade.desk.lender.nextToken = picture.nextToken
  backed : ∀ loan plot, picture.plot? loan = some plot → plot.Backed (lease loan)
  grants : client.grants = (List.range picture.plots.length).map fun loan =>
    ((lease loan).base, (lease loan).token)
  known : ∀ loan, picture.Active loan → loan < picture.plots.length
  loans : client.trade.loans.Perm (picture.live.map lease)
  views : client.views = picture.views.map (Option.map (Glimpse.view lease))
  opened : client.trade.views.Perm client.views.reduceOption
  apart : ∀ first second, picture.Active first → picture.Active second →
    (lease first).block = (lease second).block → first = second
  inside : ∀ loan plot, picture.plot? loan = some plot → ∀ index,
    (plot.written index).isSome → index < plot.length
  written : ∀ loan plot, picture.Active loan → picture.plot? loan = some plot →
    ∀ index value, plot.written index = some value →
      client.trade.memory.byte ((lease loan).base + index) = value

namespace Client

theorem depicts_opened (policy : Policy) (arena : Arena) (lease : Nat → Loan) :
    (opened policy arena).Depicts Picture.blank lease where
  roomy := Trade.roomy_opened policy arena
  token := rfl
  backed := nofun
  grants := rfl
  known := by rintro loan (live | ⟨glimpse, looked, -⟩) <;> contradiction
  loans := List.Perm.refl _
  views := rfl
  opened := List.Perm.refl _
  apart := by rintro first second (live | ⟨glimpse, looked, -⟩) <;> contradiction
  inside := nofun
  written := nofun

namespace Depicts

section Facts

variable {client : Client} {picture : Picture} {lease : Nat → Loan} {loan : Nat} {plot : Plot}
  (depicts : client.Depicts picture lease)

include depicts

theorem exists_plot (active : picture.Active loan) : ∃ plot, picture.plot? loan = some plot :=
  ⟨_, List.getElem?_eq_getElem (depicts.known loan active)⟩

theorem grant (active : picture.Active loan) :
    client.grants[loan]? = some ((lease loan).base, (lease loan).token) := by
  rw [depicts.grants, List.getElem?_map, List.getElem?_range (depicts.known loan active)]
  rfl

theorem view? (view : Nat) :
    client.view? view = (picture.glimpse? view).map (Glimpse.view lease) := by
  unfold Client.view? Picture.glimpse?
  rw [depicts.views, List.getElem?_map, Option.join_map_eq_map_join]

theorem mem_loans (live : loan ∈ picture.live) : lease loan ∈ client.trade.loans :=
  depicts.loans.mem_iff.mpr (List.mem_map_of_mem live)

theorem mem_views {glimpse : Glimpse} (looked : some glimpse ∈ picture.views) :
    glimpse.view lease ∈ client.trade.views := by
  refine depicts.opened.mem_iff.mpr (List.reduceOption_mem_iff.mpr ?_)
  rw [depicts.views]
  exact List.mem_map_of_mem looked

theorem pinned (active : picture.Active loan) :
    client.trade.Stores .pinned (lease loan).block := by
  rcases active with live | ⟨glimpse, looked, rfl⟩
  · exact Or.inl ⟨_, depicts.mem_loans live, rfl⟩
  · exact Or.inr ⟨_, depicts.mem_views looked, rfl⟩

/-- A loan lies inside its block. -/
theorem mem_range (known : picture.plot? loan = some plot) {index : Nat}
    (inside : index < plot.length) : (lease loan).base + index ∈ (lease loan).block.range := by
  have backed := depicts.backed loan plot known
  have long := backed.lies.1
  rw [backed.length] at long
  exact ⟨Nat.le_add_right _ _, Nat.add_lt_add_left (Nat.lt_of_lt_of_le inside long) _⟩

/-- The number of loans. -/
theorem count : client.trade.desk.lender.loans.count = picture.live.length := by
  have sizes := depicts.loans.length_eq
  rw [List.length_map] at sizes
  exact Array.length_toList.symm.trans sizes

/-- The number of bytes on loan. -/
theorem bytes? : client.trade.desk.lender.loans.bytes? = picture.total? := by
  have lengths : (picture.live.map lease).map Loan.length = picture.live.map fun loan =>
      ((picture.plot? loan).map Plot.length).getD 0 := by
    rw [List.map_map]
    refine List.map_congr_left fun loan live => ?_
    obtain ⟨plot, known⟩ := depicts.exists_plot (Or.inl live)
    rw [known]
    exact (depicts.backed loan plot known).length
  unfold LoanBook.bytes? Picture.total?
  rw [← lengths]
  exact Word.sum?_congr (depicts.loans.map Loan.length)

/-- What is in the blocks of the picture stays when the lender is asked for something that has
nothing to do with memory. -/
theorem written_take {turn : Turn} (idle : turn.deed.works = false)
    (other : turn.deed.isSharing = false) (spares : client.trade.Spares turn)
    (active : picture.Active loan) (known : picture.plot? loan = some plot) {index : Nat}
    {value : UInt8} (written : plot.written index = some value) :
    (client.trade.take turn).memory.byte ((lease loan).base + index) = value := by
  have inside := depicts.inside loan plot known index (written ▸ rfl)
  rw [Trade.byte_pinned depicts.roomy.marked idle other spares.1 (depicts.pinned active)
    (depicts.mem_range known inside)]
  exact depicts.written loan plot active known index value written

/-- What is written into one loan is not in the block of another one. -/
theorem byte_elsewhere {offset : Nat} {bytes : Bytes} (active : picture.Active loan)
    (known : picture.plot? loan = some plot) (inside : offset + bytes.size ≤ plot.length)
    {other : Nat} {plot' : Plot} (active' : picture.Active other)
    (known' : picture.plot? other = some plot') {index : Nat} (inside' : index < plot'.length)
    (different : loan ≠ other) :
    (client.trade.memory.put ((lease loan).base + offset) bytes).byte ((lease other).base + index) =
      client.trade.memory.byte ((lease other).base + index) := by
  have apart := depicts.roomy.spaced.spread _ _ ⟨_, depicts.pinned active⟩
    ⟨_, depicts.pinned active'⟩ fun same => different (depicts.apart _ _ active active' same)
  rw [Memory.byte_put, if_neg]
  rintro ⟨low, high⟩
  have begins : (lease loan).base ≤ (lease other).base + index := by omega
  have hit := depicts.mem_range known
    (show (lease other).base + index - (lease loan).base < plot.length by omega)
  rw [Nat.add_sub_cancel' begins] at hit
  exact Set.disjoint_left.mp apart hit (depicts.mem_range known' inside')

end Facts

/-! ### One command -/

section Step

variable {client : Client} {picture : Picture} {lease : Nat → Loan} {place : Nat}
  (depicts : client.Depicts picture lease)

include depicts

/-- A lease counts only for the loans that there are. -/
theorem congr {lease' : Nat → Loan}
    (same : ∀ loan, loan < picture.plots.length → lease' loan = lease loan) :
    client.Depicts picture lease' where
  roomy := depicts.roomy
  token := depicts.token
  backed loan plot known := by
    obtain ⟨earlier, -⟩ := List.getElem?_eq_some_iff.mp known
    exact same loan earlier ▸ depicts.backed loan plot known
  grants := depicts.grants.trans (List.map_congr_left fun loan member => by
    rw [same loan (List.mem_range.mp member)])
  known := depicts.known
  loans := depicts.loans.trans (List.Perm.of_eq (List.map_congr_left fun loan live =>
    (same loan (depicts.known loan (Or.inl live))).symm))
  views := by
    refine depicts.views.trans (List.map_congr_left fun entry looked => ?_)
    cases entry with
    | none => rfl
    | some glimpse =>
      show some (glimpse.view lease) = some (glimpse.view lease')
      unfold Glimpse.view
      rw [same _ (depicts.known _ (Or.inr ⟨glimpse, looked, rfl⟩))]
  opened := depicts.opened
  apart first second here here' := by
    rw [same first (depicts.known first here), same second (depicts.known second here')]
    exact depicts.apart first second here here'
  inside := depicts.inside
  written loan plot active := by
    rw [same loan (depicts.known loan active)]
    exact depicts.written loan plot active

/-- The block of a new loan is none of those that loans and views hold. -/
theorem different {size : Nat} {block : Block} (room : client.trade.Room size block) {loan : Nat}
    (active : picture.Active loan) : (lease loan).block ≠ block := by
  intro same
  have apart := room.apart .pinned _ nofun (depicts.pinned active)
  have here : block.address ∈ block.range :=
    ⟨Nat.le_refl _, Nat.lt_add_of_pos_right (Nat.pos_of_ne_zero room.solid)⟩
  exact Set.disjoint_left.mp apart here (same ▸ here)

theorem entered {size : Nat} {block : Block} (short : size ≤ Word.longestBlock)
    (spares : client.trade.Spares ⟨.lend size, place⟩)
    (granted : Trade.Granted client.trade (client.trade.take ⟨.lend size, place⟩)
      (client.trade.answer ⟨.lend size, place⟩) size block)
    (new : lease picture.plots.length = ⟨client.trade.desk.lender.nextToken, block, size⟩) :
    (client.take (.allocate size) ⟨.lend size, place⟩).Depicts
      (picture.obey (.allocate size)) lease := by
  have views : (client.take (.allocate size) ⟨.lend size, place⟩).views = client.views := by
    show client.views ++ (client.trade.answer _).views = client.views
    rw [granted.reply]
    exact List.append_nil _
  exact
    { roomy := depicts.roomy.take spares
      token := granted.token.trans (congrArg Token.next depicts.token)
      backed := by
        intro loan plot known
        rcases Picture.plot?_allocate known with ⟨-, known⟩ | ⟨rfl, rfl⟩
        · exact depicts.backed loan plot known
        · exact new ▸ ⟨depicts.token, rfl, ⟨granted.room.long, granted.room.solid⟩, short⟩
      grants := by
        have length : (picture.obey (.allocate size)).plots.length = picture.plots.length + 1 :=
          List.length_append
        rw [length, List.range_succ, List.map_append, ← depicts.grants]
        refine congrArg (client.grants ++ ·) ?_
        show (client.trade.answer _).grants = [((lease _).base, (lease _).token)]
        rw [granted.reply, new]
        rfl
      known := by
        intro loan active
        show loan < (picture.plots ++ [_]).length
        rw [List.length_append]
        rcases Picture.active_allocate active with rfl | older
        · exact Nat.lt_succ_self _
        · exact Nat.lt_succ_of_lt (depicts.known loan older)
      loans := by
        show List.Perm _ (lease picture.plots.length :: picture.live.map lease)
        exact new ▸ granted.loans.trans (depicts.loans.cons _)
      views := views.trans depicts.views
      opened := by
        rw [views]
        exact granted.views ▸ depicts.opened
      apart := by
        intro first second here here' same
        rcases Picture.active_allocate here, Picture.active_allocate here' with
          ⟨rfl | older, rfl | older'⟩
        · rfl
        · exact absurd (same.symm.trans (congrArg Loan.block new))
            (depicts.different granted.room older')
        · exact absurd (same.trans (congrArg Loan.block new))
            (depicts.different granted.room older)
        · exact depicts.apart first second older older' same
      inside := by
        intro loan plot known index here
        rcases Picture.plot?_allocate known with ⟨-, known⟩ | ⟨rfl, rfl⟩
        · exact depicts.inside loan plot known index here
        · cases here
      written := by
        intro loan plot active known index value written
        rcases Picture.plot?_allocate known with ⟨earlier, known⟩ | ⟨rfl, rfl⟩
        · have older := (Picture.active_allocate active).resolve_left (Nat.ne_of_lt earlier)
          exact depicts.written_take rfl rfl spares older known written
        · cases written }

/-- A new loan gets a lease of its own and leaves the others theirs. -/
theorem allocate {size : Nat} (short : size ≤ Word.longestBlock)
    (spares : client.trade.Spares ⟨.lend size, place⟩) :
    (client.trade.answer ⟨.lend size, place⟩).outcome = .granted picture.nextToken ∧
      ∃ lease', (client.take (.allocate size) ⟨.lend size, place⟩).Depicts
        (picture.obey (.allocate size)) lease' := by
  obtain ⟨block, granted⟩ := depicts.roomy.granted short spares
  refine ⟨?_, Function.update lease picture.plots.length
    ⟨client.trade.desk.lender.nextToken, block, size⟩, ?_⟩
  · rw [granted.reply, depicts.token]
    rfl
  · refine entered (depicts.congr fun loan earlier => ?_) short spares granted
      (Function.update_self _ _ _)
    exact Function.update_of_ne (Nat.ne_of_lt earlier) _ _

/-- A turn that brings no loan and leaves the plots and memory as they are. -/
theorem quiet {command : Command} {turn : Turn} (proper : picture.Proper command)
    (other : ∀ size, command ≠ .allocate size)
    (plots : (picture.obey command).plots = picture.plots)
    (nextToken : (picture.obey command).nextToken = picture.nextToken)
    (idle : turn.deed.works = false) (unshared : turn.deed.isSharing = false)
    (spares : client.trade.Spares turn)
    (token : (client.trade.take turn).desk.lender.nextToken = client.trade.desk.lender.nextToken)
    (grants : (client.trade.answer turn).grants = [])
    (loans : (client.trade.take turn).loans.Perm ((picture.obey command).live.map lease))
    (views : (client.take command turn).views =
      (picture.obey command).views.map (Option.map (Glimpse.view lease)))
    (opened : (client.trade.take turn).views.Perm (client.take command turn).views.reduceOption) :
    (client.take command turn).Depicts (picture.obey command) lease := by
  have plot? : ∀ loan, (picture.obey command).plot? loan = picture.plot? loan := fun loan =>
    congrArg (·[loan]?) plots
  have active : ∀ loan, (picture.obey command).Active loan → picture.Active loan := fun _ =>
    Picture.active_obey proper other
  exact
    { roomy := depicts.roomy.take spares
      token := token.trans (depicts.token.trans nextToken.symm)
      backed := fun loan plot known => depicts.backed loan plot (plot? loan ▸ known)
      grants := by
        rw [plots, ← depicts.grants]
        show client.grants ++ (client.trade.answer turn).grants = client.grants
        rw [grants, List.append_nil]
      known := fun loan here => plots ▸ depicts.known loan (active loan here)
      loans, views, opened
      apart := fun first second here here' =>
        depicts.apart first second (active first here) (active second here')
      inside := fun loan plot known => depicts.inside loan plot (plot? loan ▸ known)
      written := fun loan plot here known index value written =>
        depicts.written_take idle unshared spares (active loan here) (plot? loan ▸ known) written }

theorem free {loan : Nat} (live : loan ∈ picture.live)
    (spares : client.trade.Spares ⟨.reclaim (lease loan).base (lease loan).token, place⟩) :
    let turn : Turn := ⟨.reclaim (lease loan).base (lease loan).token, place⟩
    (client.trade.answer turn).outcome = .done ∧
      (client.take (.free loan) turn).Depicts (picture.obey (.free loan)) lease := by
  intro turn
  obtain ⟨answer, loans, views, token⟩ := Trade.taken_back
    (LoanBook.ordered_of_apart depicts.roomy.spaced.apart) (depicts.mem_loans live) place
  have unseen : (client.take (.free loan) turn).views = client.views := by
    show client.views ++ (client.trade.answer turn).views = client.views
    rw [answer]
    exact List.append_nil _
  have rest : (lease loan :: (client.trade.take turn).loans).Perm
      (lease loan :: (picture.live.erase loan).map lease) :=
    loans.trans (depicts.loans.trans ((List.perm_cons_erase live).map lease))
  refine ⟨answer ▸ rfl, ?_⟩
  refine depicts.quiet live nofun rfl rfl rfl rfl spares token (answer ▸ rfl) rest.cons_inv
    (unseen.trans depicts.views) ?_
  rw [unseen]
  exact views ▸ depicts.opened

theorem drop {view : Nat} {glimpse : Glimpse} (looked : picture.glimpse? view = some glimpse)
    (spares : client.trade.Spares ⟨.closeView (glimpse.view lease), place⟩) :
    let turn : Turn := ⟨.closeView (glimpse.view lease), place⟩
    (client.trade.answer turn).outcome = .done ∧
      (client.take (.drop view) turn).Depicts (picture.obey (.drop view)) lease := by
  intro turn
  have here : picture.views[view]? = some (some glimpse) := Option.join_eq_some_iff.mp looked
  have here' : client.views[view]? = some (some (glimpse.view lease)) := by
    rw [depicts.views, List.getElem?_map, here]
    rfl
  obtain ⟨loans, views, token⟩ :=
    Trade.closed (depicts.mem_views (List.mem_of_getElem? here)) place
  have dropped : (client.take (.drop view) turn).views = client.views.set view none := by
    show (client.views ++ []).set view none = _
    rw [List.append_nil]
  refine ⟨rfl, ?_⟩
  refine depicts.quiet (Option.isSome_of_mem looked) nofun rfl rfl rfl rfl spares token rfl
    (loans ▸ depicts.loans) ?_ ?_
  · rw [dropped, depicts.views]
    show _ = (picture.views.set view none).map _
    rw [List.map_set]
    rfl
  · have rest := (depicts.opened.trans (reduceOption_perm_set here')).erase (glimpse.view lease)
    rw [List.erase_cons_head] at rest
    rw [dropped]
    exact views ▸ rest

theorem resolve {loan offset size : Nat} {plot : Plot} (live : loan ∈ picture.live)
    (known : picture.plot? loan = some plot) (begins : offset < plot.length)
    (spares : client.trade.Spares ⟨.openView ((lease loan).base + offset) size, place⟩) :
    let turn : Turn := ⟨.openView ((lease loan).base + offset) size, place⟩
    (client.trade.answer turn).outcome = picture.outcome (.resolve loan offset size) ∧
      (client.take (.resolve loan offset size) turn).Depicts
        (picture.obey (.resolve loan offset size)) lease := by
  intro turn
  have backed := depicts.backed loan plot known
  have short : (lease loan).length < Word.limit := by
    rw [backed.length]
    exact Nat.lt_of_le_of_lt backed.short (by decide)
  have found := LoanBook.find?_of_begins depicts.roomy.spaced.apart (depicts.mem_loans live) short
    (backed.length ▸ begins) size
  rw [backed.length] at found
  have seen : client.trade.desk.lender.seen ((lease loan).base + offset) size =
      (picture.look loan offset size).map (Glimpse.view lease) := by
    unfold Lender.seen Picture.look
    rw [found, known, Option.bind_some]
    split <;> rfl
  obtain ⟨answer, loans, views, token⟩ :=
    client.trade.looked ((lease loan).base + offset) size place
  rw [seen] at answer views
  have after : (client.take (.resolve loan offset size) turn).views =
      client.views ++ [(picture.look loan offset size).map (Glimpse.view lease)] :=
    congrArg (client.views ++ Reply.views ·) answer
  refine ⟨?_, ?_⟩
  · have token : picture.token loan = (lease loan).token := by
      unfold Picture.token
      rw [known]
      exact backed.token.symm
    unfold Picture.outcome
    rw [answer]
    dsimp only
    rw [token]
    cases look : picture.look loan offset size with
    | none => rfl
    | some glimpse =>
      obtain rfl := Picture.eq_of_look look
      rfl
  · refine depicts.quiet ⟨live, plot, known, begins⟩ nofun rfl rfl rfl rfl spares token
      (answer ▸ rfl) (loans ▸ depicts.loans) ?_ ?_
    · rw [after, depicts.views]
      show _ = (picture.views ++ [_]).map _
      rw [List.map_append]
      rfl
    · rw [after, views, ← List.concat_eq_append, List.reduceOption_concat]
      exact List.perm_append_comm.trans (depicts.opened.append_right _)

/-- What is written goes to the block of its loan and to no other one. -/
theorem write {loan offset : Nat} {bytes : Bytes} {plot : Plot} (live : loan ∈ picture.live)
    (known : picture.plot? loan = some plot) (inside : offset + bytes.size ≤ plot.length)
    (spares : client.trade.Spares ⟨.write ((lease loan).base + offset) bytes, place⟩) :
    let turn : Turn := ⟨.write ((lease loan).base + offset) bytes, place⟩
    (client.trade.answer turn).outcome = .done ∧
      (client.take (.write loan offset bytes) turn).Depicts
        (picture.obey (.write loan offset bytes)) lease := by
  intro turn
  have plots : ∀ other plot', (picture.obey (.write loan offset bytes)).plot? other = some plot' →
      ∃ before, picture.plot? other = some before ∧
        plot' = if loan = other then before.write offset bytes else before := by
    intro other plot' here
    have here : (picture.plots.modify loan (·.write offset bytes))[other]? = some plot' := here
    rw [List.getElem?_modify] at here
    obtain ⟨before, older, rfl⟩ := Option.map_eq_some_iff.mp here
    exact ⟨before, older, rfl⟩
  have length : (picture.obey (.write loan offset bytes)).plots.length = picture.plots.length :=
    List.length_modify _ _ _
  refine ⟨rfl, ?_⟩
  exact
    { roomy := depicts.roomy.take spares
      token := depicts.token
      backed := by
        intro other plot' here
        obtain ⟨before, older, rfl⟩ := plots other plot' here
        have backed := depicts.backed other before older
        split
        · exact ⟨backed.token, backed.length, backed.lies, backed.short⟩
        · exact backed
      grants := by
        rw [length, ← depicts.grants]
        exact List.append_nil _
      known := fun other active => length.symm ▸ depicts.known other active
      loans := depicts.loans
      views := (List.append_nil _).trans depicts.views
      opened := by
        show List.Perm _ (client.views ++ []).reduceOption
        rw [List.append_nil]
        exact depicts.opened
      apart := depicts.apart
      inside := by
        intro other plot' here index written
        obtain ⟨before, older, rfl⟩ := plots other plot' here
        by_cases same : loan = other
        · obtain rfl := Option.some.inj (known.symm.trans (same ▸ older))
          rw [if_pos same] at written ⊢
          by_cases within : offset ≤ index ∧ index < offset + bytes.size
          · exact Nat.lt_of_lt_of_le within.2 inside
          · rw [Plot.written_outside within] at written
            exact depicts.inside other plot older index written
        · rw [if_neg same] at written ⊢
          exact depicts.inside other before older index written
      written := by
        intro other plot' active here index value written
        obtain ⟨before, older, rfl⟩ := plots other plot' here
        show (client.trade.memory.put ((lease loan).base + offset) bytes).byte _ = value
        by_cases same : loan = other
        · obtain rfl := same
          rw [if_pos rfl] at written
          rw [Memory.byte_put]
          by_cases within : offset ≤ index ∧ index < offset + bytes.size
          · rw [Plot.written_within within, Option.some.injEq] at written
            rw [if_pos (by omega), Nat.add_sub_add_left]
            exact written
          · rw [Plot.written_outside within] at written
            rw [if_neg (by omega)]
            exact depicts.written loan before active older index value written
        · rw [if_neg same] at written
          have reached := depicts.inside other before older index (written ▸ rfl)
          rw [depicts.byte_elsewhere (Or.inl live) known inside active older reached same]
          exact depicts.written other before active older index value written }

/-- A view shows what was written through its loan, also when the loan has been given back. -/
theorem reading {view start count : Nat} (proper : picture.Proper (.read view start count)) :
    client.reading (.read view start count) = picture.outcome (.read view start count) := by
  obtain ⟨glimpse, looked, inside, plot, known, written⟩ := proper
  have looked : picture.glimpse? view = some glimpse := looked
  have known : picture.plot? glimpse.loan = some plot := known
  have active : picture.Active glimpse.loan :=
    Or.inr ⟨glimpse, List.mem_of_getElem? (Option.join_eq_some_iff.mp looked), rfl⟩
  have here : client.view? view = some (glimpse.view lease) := by
    rw [depicts.view?, looked]
    rfl
  have shown : ((client.trade.desk.viewBytes (glimpse.view lease)).toList.drop start).take count =
      picture.bytes glimpse.loan (glimpse.offset + start) count := by
    have window : (client.trade.desk.viewBytes (glimpse.view lease)).toList =
        client.trade.memory.bytes ((lease glimpse.loan).base + glimpse.offset) glimpse.length :=
      Memory.toList_cut _ _ _
    rw [window, Memory.drop_take_bytes _ _ inside]
    refine List.map_congr_left fun index member => ?_
    obtain ⟨value, stands⟩ := Option.isSome_iff_exists.mp (written index (List.mem_range.mp member))
    rw [known, Option.bind_some, stands, Option.getD_some,
      ← depicts.written _ plot active known _ value stands]
    exact congrArg client.trade.memory.byte (by omega)
  unfold Client.reading Picture.outcome
  dsimp only
  rw [here, looked]
  exact congrArg Outcome.shown shown

/-- A proper command comes to what the picture says, and leaves a client that has what the picture
shows then. -/
theorem obey {command : Command} (proper : picture.Proper command)
    (spares : client.Spares place command) :
    client.outcome place command = picture.outcome command ∧
      ∃ lease', (client.obey place command).Depicts (picture.obey command) lease' := by
  -- Whatever the command asks for is settled by one turn; reading asks for nothing.
  have asked : ∀ deed, client.deed? command = some deed →
      client.outcome place command = (client.trade.answer ⟨deed, place⟩).outcome ∧
        client.obey place command = client.take command ⟨deed, place⟩ ∧
          client.trade.Spares ⟨deed, place⟩ := by
    intro deed names
    unfold Client.outcome Client.obey
    rw [names]
    exact ⟨rfl, rfl, spares deed names⟩
  have named : ∀ loan, loan ∈ picture.live → client.grants[loan]? = _ := fun loan live =>
    depicts.grant (Or.inl live)
  cases command with
  | allocate size =>
    obtain ⟨outcome, after, room⟩ := asked _ rfl
    rw [outcome, after]
    exact depicts.allocate proper room
  | free loan =>
    obtain ⟨outcome, after, room⟩ := asked _ (congrArg (Option.map _) (named loan proper))
    rw [outcome, after]
    obtain ⟨done, depicts⟩ := depicts.free proper room
    exact ⟨done, lease, depicts⟩
  | resolve loan offset size =>
    obtain ⟨live, plot, known, begins⟩ := proper
    obtain ⟨outcome, after, room⟩ := asked _ (congrArg (Option.map _) (named loan live))
    rw [outcome, after]
    obtain ⟨seen, depicts⟩ := depicts.resolve live known begins room
    exact ⟨seen, lease, depicts⟩
  | read view start count => exact ⟨depicts.reading proper, lease, depicts⟩
  | drop view =>
    obtain ⟨glimpse, looked⟩ := Option.isSome_iff_exists.mp proper
    have here := (depicts.view? view).trans (congrArg (Option.map (Glimpse.view lease)) looked)
    obtain ⟨outcome, after, room⟩ := asked _ (congrArg (Option.map Deed.closeView) here)
    rw [outcome, after]
    obtain ⟨done, depicts⟩ := depicts.drop looked room
    exact ⟨done, lease, depicts⟩
  | write loan offset bytes =>
    obtain ⟨live, plot, known, inside⟩ := proper
    obtain ⟨outcome, after, room⟩ := asked _ (congrArg (Option.map _) (named loan live))
    rw [outcome, after]
    obtain ⟨done, depicts⟩ := depicts.write live known inside room
    exact ⟨done, lease, depicts⟩

end Step

/-- Command by command a client sees what the picture says. -/
theorem sights {client : Client} {picture : Picture} {lease : Nat → Loan}
    (depicts : client.Depicts picture lease) {heap : Nat → Nat} {program : List Command}
    (proper : picture.Throughout program) (spared : client.Spared heap program) :
    client.sights heap program = picture.sights program := by
  induction program generalizing client picture lease heap with
  | nil => rfl
  | cons command rest inductionHypothesis =>
    obtain ⟨outcome, lease', after⟩ := depicts.obey proper.1 spared.1
    have sight : client.sight (heap 0) command = picture.sight command := by
      unfold Client.sight Picture.sight
      rw [outcome, after.count, after.bytes?]
    exact congrArg₂ List.cons sight (inductionHypothesis after proper.2 spared.2)

end Depicts

/-- Two lenders with any two policies, over any two heaps that place a fresh block where no other
one is, show the same to a program that gives back and looks at live loans only, writes inside
them and reads what it has written: the same outcomes, tokens, offsets and lengths, the same
number of loans and of bytes on loan after each command, and the same bytes. -/
theorem transparent (policy policy' : Policy) (arena arena' : Arena) (heap heap' : Nat → Nat)
    (program : List Command) (proper : Picture.blank.Throughout program)
    (spared : (opened policy arena).Spared heap program)
    (spared' : (opened policy' arena').Spared heap' program) :
    (opened policy arena).sights heap program = (opened policy' arena').sights heap' program := by
  have shown := (depicts_opened policy arena fun _ => default).sights proper spared
  have shown' := (depicts_opened policy' arena' fun _ => default).sights proper spared'
  exact shown.trans shown'.symm

/-- One lender keeps what comes back and the other one keeps nothing. A view outlives its loan,
and the block is lent again only when the view is closed; a range past the end of the second
loan, which is inside the block that the first lender uses again, is not seen with either. -/
theorem transparent_keeping_nothing :
    let program : List Command :=
      [.allocate 16, .write 0 4 (Bytes.ofList [7, 8]), .resolve 0 4 8, .free 0, .allocate 8,
        .read 0 0 2, .free 1, .drop 0, .allocate 8, .write 2 0 (Bytes.ofList [9]),
        .resolve 2 0 9, .resolve 2 0 1, .read 2 0 1]
    let keeping := opened Policy.standard (Arena.startingAt 0 16 16)
    let nothing := opened ⟨⟨0, 0⟩, .reject⟩ (Arena.startingAt 0 16 16)
    Picture.blank.Throughout program ∧ keeping.Spared (4096 + 16 * ·) program ∧
      nothing.Spared (65536 + 32 * ·) program ∧
        keeping.sights (4096 + 16 * ·) program = nothing.sights (65536 + 32 * ·) program := by
  intro program keeping nothing
  have proper : Picture.blank.Throughout program := by decide +kernel
  have spared : keeping.Spared (4096 + 16 * ·) program := by decide +kernel
  have spared' : nothing.Spared (65536 + 32 * ·) program := by decide +kernel
  exact ⟨proper, spared, spared', transparent _ _ _ _ _ _ program proper spared spared'⟩

end Client

end MemoryLending
