import ColumnVeil.Audit.Event
import ColumnVeil.Proofs.Text.Boundary
import ColumnVeil.Proofs.Wire.Guarded

/-!
# Logged queries

The text of a query is kept whole if it has at most a thousand bytes, and is cut otherwise.  The
cut is found by walking back from the limit over the bytes that continue a character.

Nothing in the walk says where it has to stop.  Its guarded counterpart (`boundaryBefore?`) has no
bound on its rounds and none to go on to at the start of the text, and the guarded text in front of
an offset (`beginning?`) has to end at a boundary and consist of valid bytes.  Neither guard is ever
met (`loggedQuery?_eq`).
-/

namespace ColumnVeil

open Wire (loop? loop?_of_inl loop?_of_inr)

namespace Text

/-! ## Guarded cutting -/

/-- One round of walking back to a boundary.  At the start there is no byte to go back over. -/
def walkRound? (bytes : Bytes) (offset : Nat) : Option (Nat ⊕ Nat) :=
  if isBoundary bytes offset then some (.inl offset)
  else match offset with
    | 0 => none
    | offset + 1 => some (.inr offset)

/-- The boundary that is reached by walking back from an offset, in any number of rounds. -/
noncomputable def boundaryBefore? (bytes : Bytes) (offset : Nat) : Option Nat :=
  loop? (walkRound? bytes) offset

/-- The text in front of an offset, which has to be a boundary of valid bytes. -/
def beginning? (text : String) (offset : Nat) : Option String :=
  if isBoundary (utf8 text) offset then decode? ((utf8 text).take offset) else none

/-- The walk ends, as the start of a text is a boundary. -/
theorem boundaryBefore?_eq (bytes : Bytes) (offset : Nat) :
    boundaryBefore? bytes offset = some (boundaryBefore bytes offset) := by
  rw [boundaryBefore?]
  fun_induction boundaryBefore bytes offset with
  | case1 =>
      exact loop?_of_inl (if_pos isBoundary_zero)
  | case2 offset boundary =>
      exact loop?_of_inl (if_pos boundary)
  | case3 offset inside inductionHypothesis =>
      have goesOn : walkRound? bytes (offset + 1) = some (.inr offset) := by
        rw [walkRound?, if_neg inside]
      rw [loop?_of_inr goesOn]
      exact inductionHypothesis

/-- A beginning in whole characters is what stands in front of its end. -/
theorem beginning?_eq {text kept : String} (whole : kept.toList <+: text.toList) :
    beginning? text kept.utf8ByteSize = some kept := by
  have boundary : isBoundary (utf8 text) kept.utf8ByteSize = true :=
    isBoundary_utf8_iff.mpr ⟨kept, whole, rfl⟩
  rw [beginning?, if_pos boundary, decode?_take whole]

end Text

namespace Audit

/-- The text of a query as it is kept, if it can be cut. -/
noncomputable def loggedQuery? (text : String) : Option String :=
  if queryLimit < text.utf8ByteSize then do
    let offset ← Text.boundaryBefore? (Text.utf8 text) queryLimit
    return (← Text.beginning? text offset) ++ cutMark
  else some text

/-- Every query can be kept. -/
theorem loggedQuery?_eq (text : String) : loggedQuery? text = some (loggedQuery text) := by
  rw [loggedQuery?, loggedQuery]
  split
  · rcases Text.beginningWithin_ends queryLimit text with ⟨whole, size⟩
    rw [Text.boundaryBefore?_eq, ← size, Option.bind_eq_bind, Option.bind_some,
      Text.beginning?_eq whole]
    rfl
  · rfl

/--
Keeping the text of a query ends for every text and changes nothing else of an event.  A text of at
most a thousand bytes is kept as it is.  Of a longer one the longest beginning in whole characters
that fits is kept, for which at most three bytes are given up, and the mark follows.  The bytes in
front of the cut are valid, and so are those of what is kept.
-/
theorem queries_are_cut_between_characters (event : Event) (text : String) :
    ∃ stored, loggedQuery? text = some stored ∧
      event.withQuery text = { event with query := some stored } ∧
      (text.utf8ByteSize ≤ 1000 → stored = text) ∧
      (1000 < text.utf8ByteSize →
        ∃ kept offset, Text.boundaryBefore? (Text.utf8 text) 1000 = some offset ∧
          offset ≤ 1000 ∧ 1000 ≤ offset + 3 ∧
          Text.LongestWithin 1000 text kept ∧ kept.utf8ByteSize = offset ∧
          stored = kept ++ "... [TRUNCATED]" ∧
          Text.decode? ((Text.utf8 text).take offset ++ Text.utf8 "... [TRUNCATED]") =
            some stored) := by
  refine ⟨loggedQuery text, loggedQuery?_eq text, rfl, ?_, ?_⟩
  · intro short
    exact if_neg (Nat.not_lt.mpr short)
  · intro beyond
    have cut : loggedQuery text = Text.beginningWithin 1000 text ++ "... [TRUNCATED]" :=
      if_pos beyond
    have longest := Text.longestWithin_beginningWithin 1000 text
    rcases Text.beginningWithin_ends 1000 text with ⟨whole, size⟩
    have spelled := Text.decode?_eq_some_iff.mp (Text.decode?_take whole)
    refine ⟨_, _, Text.boundaryBefore?_eq _ _, Text.boundaryBefore_le, ?_, longest, size, cut, ?_⟩
    · rw [← size]
      exact longest.limit_le beyond
    · rw [← size, ← spelled, ← Text.utf8_append, ← cut]
      exact Text.decode?_eq_some_iff.mpr rfl

end Audit
end ColumnVeil
