import ColumnVeil.Bytes

/-!
# Random bytes

Randomness is drawn from an explicit stream, so that what a computation does is a function
of the stream.  Draws are consecutive: each takes the bytes after the previous one.
-/

namespace ColumnVeil.Crypto

/-- A stream of random bytes and the number of them that have been drawn. -/
structure Entropy where
  stream : Nat → UInt8
  used : Nat := 0

namespace Entropy

/-- The next bytes of the stream, and the stream after them. -/
def draw (entropy : Entropy) (count : Nat) : Bytes × Entropy :=
  ((List.range count).map fun index => entropy.stream (entropy.used + index),
    { entropy with used := entropy.used + count })

@[simp] theorem draw_length (entropy : Entropy) (count : Nat) :
    (entropy.draw count).1.length = count := by
  simp [draw]

end Entropy

end ColumnVeil.Crypto
