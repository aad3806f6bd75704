import TraceSampler.Unicode.RangeSet

/-!
# Sets of characters as bytes

A character takes one to four bytes. The characters of a range are, byte for byte, those of a few
sequences of byte ranges: the range is cut where the number of bytes changes and wherever the bytes
behind the first different one do not run through all of their values.
-/

namespace TraceSampler.Pattern

open Unicode

/-- Bytes from `first` to `last`, both included. -/
structure ByteRange where
  first : Nat
  last : Nat
  deriving DecidableEq, Repr

namespace ByteRange

/-- The first code point of the upper part, if the code points from `first` to `last` have to be cut
in two. -/
def cut? (first last : Nat) : Option Nat :=
  match [0x7F, 0x7FF, 0xFFFF].find? fun m => first ≤ m && m < last with
  | some m => some (m + 1)
  | none =>
    if last ≤ 0x7F then none
    else
      [64, 4096, 262144].findSome? fun block =>
        if first / block == last / block then none
        else if first % block != 0 then some ((first / block + 1) * block)
        else if last % block != block - 1 then some (last / block * block)
        else none

/-- The bytes of two characters that need no cut between them. -/
def between (first last : Nat) : List ByteRange :=
  (String.utf8EncodeChar (Char.ofNat first)).zipWith (fun a b => ⟨a.toNat, b.toNat⟩)
    (String.utf8EncodeChar (Char.ofNat last))

/-- The sequences of bytes for the code points from `first` to `last`, in ascending order. -/
def sequences (first last : Nat) : List (List ByteRange) :=
  match cut? first last with
  | some m =>
    if first < m ∧ m ≤ last then sequences first (m - 1) ++ sequences m last
    else [between first last]
  | none => [between first last]
termination_by last - first

end ByteRange

/-- The sequences of bytes for the characters of a set, in ascending order. -/
def byteSequences (s : RangeSet) : List (List ByteRange) :=
  s.ranges.toList.flatMap fun r => ByteRange.sequences r.first r.last

end TraceSampler.Pattern
