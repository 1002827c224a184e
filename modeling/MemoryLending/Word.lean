/-
This file fixes the machine word. Addresses, lengths and counts are natural numbers below
`2 ^ 64`, and a sum or a product that leaves this range has no value: the checked operations
answer `none`, and each caller says what happens then. The file also writes a word the way
addresses are written, as `0x` and lower-case hexadecimal digits.
-/

namespace MemoryLending.Word

/-- One more than the largest machine word. -/
def limit : Nat := UInt64.size

/-- The greatest length a single block can have. -/
def longestBlock : Nat := limit / 2 - 1

/-- The sum, if it is a machine word. -/
def add? (left right : Nat) : Option Nat :=
  if left + right < limit then some (left + right) else none

/-- The product, if it is a machine word. -/
def mul? (left right : Nat) : Option Nat :=
  if left * right < limit then some (left * right) else none

/-- The sum of a list, added from the front, if no partial sum leaves the machine word. -/
def sum? (terms : List Nat) : Option Nat :=
  terms.foldlM add? 0

/-- An address as text: `0x` and its hexadecimal digits. -/
def hex (value : Nat) : String :=
  "0x" ++ String.ofList (Nat.toDigits 16 value)

/-! ### The checked operations are the exact ones inside the range -/

theorem add?_eq_some_iff {left right total : Nat} :
    add? left right = some total ↔ left + right = total ∧ total < limit := by
  unfold add?
  split <;> simp only [Option.some.injEq, reduceCtorEq, false_iff] <;> omega

theorem add?_of_lt {left right : Nat} (fits : left + right < limit) :
    add? left right = some (left + right) :=
  if_pos fits

end MemoryLending.Word
