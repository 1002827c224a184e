/-
This file draws the picture that a program has of a lender. A program asks for loans, writes into
them, looks at them and gives them back; it names a loan by the order in which loans came about
and a place in a loan by its offset, so that no address occurs in it. The picture keeps for every
loan its length, its token and the bytes that were written through it, and knows of no block, no
memory and no reserve. A client is the same program at work on a trade: it takes the addresses
from what it was answered. Whatever a client sees can be compared with the picture.
-/

import MemoryLending.Proofs.Spacing

namespace MemoryLending

/-! ### What a program does and sees -/

/-- One thing that a program does. -/
inductive Command where
  | allocate (size : Nat)
  | free (loan : Nat)
  /-- Asks for a view of `size` bytes from an offset in a loan on. -/
  | resolve (loan offset size : Nat)
  /-- Reads `count` bytes of a view. -/
  | read (view start count : Nat)
  | drop (view : Nat)
  | write (loan offset : Nat) (bytes : Bytes)
  deriving DecidableEq, Repr

/-- What a command comes to. -/
inductive Outcome where
  | granted (token : Token)
  | seen (token : Token) (offset length : Nat)
  | unseen
  | shown (bytes : List UInt8)
  | done
  | failed (fault : Fault)
  /-- The command names no loan and no open view. -/
  | missing
  deriving DecidableEq, Repr

/-- What a program sees at a command: what it came to, the number of loans, and the number of
bytes on loan. -/
structure Sight where
  outcome : Outcome
  loans : Nat
  bytes : Option Nat
  deriving DecidableEq, Repr

/-! ### The picture -/

/-- A loan as a program knows it. -/
structure Plot where
  length : Nat
  token : Token
  /-- What the program has written at each offset, the latest only. -/
  written : Nat → Option UInt8

/-- A view as a program knows it. -/
structure Glimpse where
  loan : Nat
  offset : Nat
  length : Nat
  deriving DecidableEq, Repr

/-- What a program knows: the loans in their order, which of them are live, what it looks at, and
the token of the next loan. -/
structure Picture where
  plots : List Plot
  live : List Nat
  views : List (Option Glimpse)
  nextToken : Token

namespace Plot

/-- A loan into which nothing has been written. -/
def bare (length : Nat) (token : Token) : Plot := ⟨length, token, fun _ => none⟩

/-- Writes bytes from an offset on. -/
def write (plot : Plot) (offset : Nat) (bytes : Bytes) : Plot :=
  { plot with
    written := fun index =>
      if offset ≤ index ∧ index < offset + bytes.size then
        some (bytes.toList.getD (index - offset) 0)
      else plot.written index }

section Write

variable {plot : Plot} {offset index : Nat} {bytes : Bytes}

theorem written_within (within : offset ≤ index ∧ index < offset + bytes.size) :
    (plot.write offset bytes).written index = some (bytes.toList.getD (index - offset) 0) :=
  if_pos within

theorem written_outside (outside : ¬(offset ≤ index ∧ index < offset + bytes.size)) :
    (plot.write offset bytes).written index = plot.written index :=
  if_neg outside

end Write

end Plot

namespace Picture

/-- The picture of a program that has done nothing yet. -/
def blank : Picture := ⟨[], [], [], Token.first⟩

/-- The loan with a number. -/
def plot? (picture : Picture) (loan : Nat) : Option Plot := picture.plots[loan]?

/-- The open view with a number. -/
def glimpse? (picture : Picture) (view : Nat) : Option Glimpse := picture.views[view]?.join

/-- Whether somebody still looks at a loan. -/
def Watches (picture : Picture) (loan : Nat) : Prop :=
  ∃ glimpse : Glimpse, some glimpse ∈ picture.views ∧ glimpse.loan = loan

/-- Whether a loan is live or looked at. -/
def Active (picture : Picture) (loan : Nat) : Prop :=
  loan ∈ picture.live ∨ picture.Watches loan

/-- What a view of a range of a loan would be. -/
def look (picture : Picture) (loan offset size : Nat) : Option Glimpse :=
  (picture.plot? loan).bind fun plot =>
    if offset + size ≤ plot.length then some ⟨loan, offset, size⟩ else none

/-- The program gives back and looks at live loans only, names offsets inside them, writes inside
live loans, and reads what it wrote before through the same loan. -/
def Proper (picture : Picture) : Command → Prop
  | .allocate size => size ≤ Word.longestBlock
  | .free loan => loan ∈ picture.live
  | .resolve loan offset _ =>
    loan ∈ picture.live ∧ ∃ plot ∈ picture.plot? loan, offset < plot.length
  | .read view start count =>
    ∃ glimpse ∈ picture.glimpse? view, start + count ≤ glimpse.length ∧
      ∃ plot ∈ picture.plot? glimpse.loan, ∀ index, index < count →
        (plot.written (glimpse.offset + start + index)).isSome
  | .drop view => (picture.glimpse? view).isSome
  | .write loan offset bytes =>
    loan ∈ picture.live ∧ ∃ plot ∈ picture.plot? loan, offset + bytes.size ≤ plot.length

/-- The picture after a command. -/
def obey (picture : Picture) : Command → Picture
  | .allocate size =>
    { picture with
      plots := picture.plots ++ [Plot.bare size picture.nextToken]
      live := picture.plots.length :: picture.live
      nextToken := picture.nextToken.next }
  | .free loan => { picture with live := picture.live.erase loan }
  | .resolve loan offset size =>
    { picture with views := picture.views ++ [picture.look loan offset size] }
  | .read _ _ _ => picture
  | .drop view => { picture with views := picture.views.set view none }
  | .write loan offset bytes =>
    { picture with plots := picture.plots.modify loan (·.write offset bytes) }

/-- The bytes that were written in a range of a loan. -/
def bytes (picture : Picture) (loan start count : Nat) : List UInt8 :=
  (List.range count).map fun index =>
    ((picture.plot? loan).bind fun plot => plot.written (start + index)).getD 0

/-- The token of a loan. -/
def token (picture : Picture) (loan : Nat) : Token :=
  ((picture.plot? loan).map Plot.token).getD Token.first

/-- The number of bytes on loan, if it is a machine word. -/
def total? (picture : Picture) : Option Nat :=
  Word.sum? (picture.live.map fun loan => ((picture.plot? loan).map Plot.length).getD 0)

/-- What a command comes to in the picture. -/
def outcome (picture : Picture) : Command → Outcome
  | .allocate _ => .granted picture.nextToken
  | .resolve loan offset size =>
    match picture.look loan offset size with
    | some glimpse => .seen (picture.token loan) glimpse.offset glimpse.length
    | none => .unseen
  | .read view start count =>
    match picture.glimpse? view with
    | some glimpse => .shown (picture.bytes glimpse.loan (glimpse.offset + start) count)
    | none => .missing
  | _ => .done

/-- What a program sees at a command according to the picture. -/
def sight (picture : Picture) (command : Command) : Sight :=
  ⟨picture.outcome command, (picture.obey command).live.length, (picture.obey command).total?⟩

/-- What a program sees at one command after another according to the picture. -/
def sights (picture : Picture) : List Command → List Sight
  | [] => []
  | command :: rest => picture.sight command :: sights (picture.obey command) rest

/-- Whether every command of a program is proper where it stands. -/
def Throughout (picture : Picture) : List Command → Prop
  | [] => True
  | command :: rest => picture.Proper command ∧ Throughout (picture.obey command) rest

instance decidableProper (picture : Picture) :
    (command : Command) → Decidable (picture.Proper command)
  | .allocate _ => inferInstanceAs (Decidable (_ ≤ _))
  | .free _ => inferInstanceAs (Decidable (_ ∈ _))
  | .resolve _ _ _ => inferInstanceAs (Decidable (_ ∧ ∃ plot ∈ _, _))
  | .read _ _ _ =>
    inferInstanceAs (Decidable (∃ glimpse ∈ _, _ ∧ ∃ plot ∈ _, ∀ index, index < _ → _))
  | .drop _ => inferInstanceAs (Decidable (_ = true))
  | .write _ _ _ => inferInstanceAs (Decidable (_ ∧ ∃ plot ∈ _, _))

instance decidableThroughout :
    (picture : Picture) → (program : List Command) → Decidable (picture.Throughout program)
  | _, [] => isTrue trivial
  | picture, command :: rest =>
    have := decidableThroughout (picture.obey command) rest
    inferInstanceAs (Decidable (picture.Proper command ∧ Throughout (picture.obey command) rest))

section Lookups

variable {picture : Picture} {loan : Nat}

theorem plot?_allocate {size : Nat} {plot : Plot}
    (known : (picture.obey (.allocate size)).plot? loan = some plot) :
    loan < picture.plots.length ∧ picture.plot? loan = some plot ∨
      loan = picture.plots.length ∧ plot = Plot.bare size picture.nextToken := by
  have known : (picture.plots ++ [Plot.bare size picture.nextToken])[loan]? = some plot := known
  rcases Nat.lt_trichotomy loan picture.plots.length with earlier | same | later
  · rw [List.getElem?_append_left earlier] at known
    exact Or.inl ⟨earlier, known⟩
  · rw [same, List.getElem?_concat_length] at known
    exact Or.inr ⟨same, (Option.some.inj known).symm⟩
  · have beyond : (picture.plots ++ [Plot.bare size picture.nextToken]).length ≤ loan := by
      rw [List.length_append]
      exact later
    rw [List.getElem?_eq_none beyond] at known
    cases known

theorem active_allocate {size : Nat} (active : (picture.obey (.allocate size)).Active loan) :
    loan = picture.plots.length ∨ picture.Active loan := by
  rcases active with live | watched
  · exact (List.mem_cons.mp live).imp_right Or.inl
  · exact Or.inr (Or.inr watched)

theorem eq_of_look {offset size : Nat} {glimpse : Glimpse}
    (look : picture.look loan offset size = some glimpse) : glimpse = ⟨loan, offset, size⟩ := by
  obtain ⟨plot, -, seen⟩ := Option.bind_eq_some_iff.mp look
  split at seen
  · exact (Option.some.inj seen).symm
  · cases seen

/-- Nobody comes to look at a loan that is not live. -/
theorem active_obey {command : Command} (proper : picture.Proper command)
    (other : ∀ size, command ≠ .allocate size) (active : (picture.obey command).Active loan) :
    picture.Active loan := by
  cases command with
  | allocate size => exact absurd rfl (other size)
  | free freed => exact active.imp_left List.mem_of_mem_erase
  | read view start count => exact active
  | write written offset bytes => exact active
  | drop view =>
    refine active.imp_right fun ⟨glimpse, member, same⟩ => ⟨glimpse, ?_, same⟩
    exact (List.mem_or_eq_of_mem_set member).resolve_right nofun
  | resolve resolved offset size =>
    rcases active with live | ⟨glimpse, member, same⟩
    · exact Or.inl live
    · rcases List.mem_append.mp member with older | latest
      · exact Or.inr ⟨glimpse, older, same⟩
      · obtain rfl := eq_of_look (List.mem_singleton.mp latest).symm
        exact Or.inl (same ▸ proper.1)

end Lookups

end Picture

/-! ### The client -/

/-- The loans that a reply brings. -/
def Reply.grants : Reply → List (Nat × Token)
  | .loan address token => [(address, token)]
  | _ => []

/-- The views that a reply brings, or fails to bring. -/
def Reply.views : Reply → List (Option View)
  | .view found => [found]
  | _ => []

/-- What a reply comes to for a program. -/
def Reply.outcome : Reply → Outcome
  | .loan _ token => .granted token
  | .view (some found) => .seen found.token found.offset found.length
  | .view none => .unseen
  | .failed fault => .failed fault
  | _ => .done

/-- The views of a client once a command has been obeyed. -/
def Command.dropped : Command → List (Option View) → List (Option View)
  | .drop view, views => views.set view none
  | _, views => views

/-- A program at work: the trade, and the loans and the views that it was answered. -/
structure Client where
  trade : Trade
  grants : List (Nat × Token)
  views : List (Option View)

namespace Client

/-- A client at a lender that has lent nothing yet. -/
def opened (policy : Policy) (arena : Arena) : Client := ⟨Trade.opened policy arena, [], []⟩

/-- The open view with a number. -/
def view? (client : Client) (view : Nat) : Option View := client.views[view]?.join

/-- What a command asks of the lender, with the address of the loan that it names. Reading asks
nothing. -/
def deed? (client : Client) : Command → Option Deed
  | .allocate size => some (.lend size)
  | .free loan => client.grants[loan]?.map fun grant => .reclaim grant.1 grant.2
  | .resolve loan offset size =>
    client.grants[loan]?.map fun grant => .openView (grant.1 + offset) size
  | .read _ _ _ => none
  | .drop view => (client.view? view).map .closeView
  | .write loan offset bytes =>
    client.grants[loan]?.map fun grant => .write (grant.1 + offset) bytes

/-- What a client sees of a view that it reads. -/
def reading (client : Client) : Command → Outcome
  | .read view start count =>
    match client.view? view with
    | some view => .shown (((client.trade.desk.viewBytes view).toList.drop start).take count)
    | none => .missing
  | _ => .missing

/-- The client after a turn has been taken for a command. -/
def take (client : Client) (command : Command) (turn : Turn) : Client where
  trade := client.trade.take turn
  grants := client.grants ++ (client.trade.answer turn).grants
  views := command.dropped (client.views ++ (client.trade.answer turn).views)

/-- The client after a command, when the heap has a place ready. -/
def obey (client : Client) (place : Nat) (command : Command) : Client :=
  match client.deed? command with
  | some deed => client.take command ⟨deed, place⟩
  | none => client

/-- What a command comes to. -/
def outcome (client : Client) (place : Nat) (command : Command) : Outcome :=
  match client.deed? command with
  | some deed => (client.trade.answer ⟨deed, place⟩).outcome
  | none => client.reading command

/-- What a client sees at a command. -/
def sight (client : Client) (place : Nat) (command : Command) : Sight :=
  ⟨client.outcome place command, (client.obey place command).trade.desk.lender.loans.count,
    (client.obey place command).trade.desk.lender.loans.bytes?⟩

/-- What a client sees at one command after another, over a heap that says for each of them where
a fresh block would go. -/
def sights (client : Client) (heap : Nat → Nat) : List Command → List Sight
  | [] => []
  | command :: rest =>
    client.sight (heap 0) command :: sights (client.obey (heap 0) command) (heap <| · + 1) rest

/-- Whether the heap has room for a command. -/
def Spares (client : Client) (place : Nat) (command : Command) : Prop :=
  ∀ deed ∈ client.deed? command, client.trade.Spares ⟨deed, place⟩

/-- Whether the heap has room for one command after another. -/
def Spared (client : Client) (heap : Nat → Nat) : List Command → Prop
  | [] => True
  | command :: rest =>
    client.Spares (heap 0) command ∧ Spared (client.obey (heap 0) command) (heap <| · + 1) rest

instance decidableSpares (client : Client) (place : Nat) (command : Command) :
    Decidable (client.Spares place command) :=
  inferInstanceAs (Decidable (∀ deed ∈ client.deed? command, _))

instance decidableSpared :
    (client : Client) → (heap : Nat → Nat) → (program : List Command) →
      Decidable (client.Spared heap program)
  | _, _, [] => isTrue trivial
  | client, heap, command :: rest =>
    have := decidableSpared (client.obey (heap 0) command) (heap <| · + 1) rest
    inferInstanceAs (Decidable (client.Spares (heap 0) command ∧
      Spared (client.obey (heap 0) command) (heap <| · + 1) rest))

end Client

end MemoryLending
