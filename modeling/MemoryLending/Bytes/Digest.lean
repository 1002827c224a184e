/-
This file writes bytes as text. Each byte is a pair of lower-case hexadecimal digits; a long
text of bytes is known by its fingerprint, a word of 64 bits into which each byte is mixed by an
exclusive or and a multiplication.
-/

import MemoryLending.Bytes

namespace MemoryLending

namespace Bytes

/-- The hexadecimal digits of a number, with zeros in front up to a width. -/
def hexPadded (width value : Nat) : String :=
  let digits := Nat.toDigits 16 value
  String.ofList (List.replicate (width - digits.length) '0' ++ digits)

/-- Bytes as pairs of hexadecimal digits. -/
def hexText (bytes : List UInt8) : String :=
  String.join (bytes.map fun byte => hexPadded 2 byte.toNat)

/-- The value of a hexadecimal digit. -/
def hexDigit? (digit : Char) : Option Nat :=
  if '0' ≤ digit ∧ digit ≤ '9' then some (digit.toNat - '0'.toNat)
  else if 'a' ≤ digit ∧ digit ≤ 'f' then some (digit.toNat - 'a'.toNat + 10)
  else if 'A' ≤ digit ∧ digit ≤ 'F' then some (digit.toNat - 'A'.toNat + 10)
  else none

/-- The bytes of a text of pairs of hexadecimal digits. -/
def ofHex? : List Char → Option (List UInt8)
  | [] => some []
  | high :: low :: later => do
    let high ← hexDigit? high
    let low ← hexDigit? low
    return UInt8.ofNat (high * 16 + low) :: (← ofHex? later)
  | [_] => none

/-- Pushes `count` bytes of a run, from number `index` on. -/
def pushFrom (run : Run) : (count index : Nat) → ByteArray → ByteArray
  | 0, _, bytes => bytes
  | count + 1, index, bytes => pushFrom run count (index + 1) (bytes.push (run.byte index))

/-- The bytes in one array. -/
def flatten (bytes : Bytes) : ByteArray :=
  bytes.foldl (fun all run => pushFrom run run.length 0 all) ByteArray.empty

/-- Mixes a byte into a fingerprint. -/
def mix (hash : UInt64) (byte : UInt8) : UInt64 :=
  (hash ^^^ byte.toUInt64) * 0x100000001b3

/-- The fingerprint of bytes, as sixteen digits. -/
def fingerprint (bytes : ByteArray) : String :=
  hexPadded 16 (bytes.foldl mix 0xcbf29ce484222325).toNat

end Bytes

end MemoryLending
