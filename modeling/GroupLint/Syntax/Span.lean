import GroupLint.Text.Utf8

/-!
Where a node stands in its source: a range of bytes, with the line (from 1) and the column (from
0, in bytes) of its start.
-/
namespace GroupLint

/-- The place that an offset names in a string of `n` bytes. An offset below zero counts from the
end, and one beyond either end names that end. -/
def place (n : Nat) (offset : Int) : Nat := if offset < 0 then (n + offset).toNat else min offset.toNat n

def slice (bytes : List UInt8) (start stop : Int) : List UInt8 :=
  (bytes.take (place bytes.length stop)).drop (place bytes.length start)

structure Span where
  start : Int
  stop : Int
  line : Int := 1
  column : Int := 0
deriving DecidableEq, Repr, Inhabited

namespace Span

def length (s : Span) : Int := s.stop - s.start

def text? (s : Span) (bytes : List UInt8) : Option (List Char) :=
  Text.Utf8.decode? (slice bytes s.start s.stop)

end Span
end GroupLint
