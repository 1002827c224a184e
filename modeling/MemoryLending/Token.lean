/-
This file holds the token that goes out with each loan and comes back when the loan is
returned. A token is a machine word that the native layer stores and never looks into; tokens
are compared by their number, and the one after the last is zero again.
-/

namespace MemoryLending

/-- The opaque word that identifies a loan to the native layer. -/
structure Token where
  raw : UInt64
  deriving DecidableEq, Repr, Inhabited

namespace Token

/-- The token of a lender's first loan. -/
def first : Token := ⟨1⟩

/-- The token after this one, in the cyclic order of machine words. -/
def next (token : Token) : Token := ⟨token.raw + 1⟩

/-- The number of a token. -/
def number (token : Token) : Nat := token.raw.toNat

/-- The token with a given number, reduced to a machine word. -/
def ofNumber (number : Nat) : Token := ⟨UInt64.ofNat number⟩

/-- Tokens are ordered by their number. -/
def precedes (left right : Token) : Bool := left.number ≤ right.number

/-- A token as it appears in messages and records. -/
def text (token : Token) : String := s!"#{token.number}"

/-- A token as it appears inside the structural text of other values. -/
def outline (token : Token) : String := s!"AllocationToken({token.number})"

/-- Tokens in their order, equal ones kept as they came. -/
def sort (tokens : List Token) : List Token := tokens.mergeSort precedes

theorem number_next (token : Token) (room : token.number + 1 < UInt64.size) :
    token.next.number = token.number + 1 := by
  simp only [number, next, UInt64.size, UInt64.toNat_add, UInt64.toNat_one] at *
  omega

end Token

end MemoryLending
