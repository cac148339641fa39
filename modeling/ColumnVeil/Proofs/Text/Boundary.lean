import Mathlib.Tactic.SplitIfs
import ColumnVeil.Proofs.Text.Utf8

/-!
# Where a text may be cut

The first byte of a character does not continue one and all its others do, so the offsets that do
not lie inside a character are the lengths of the beginnings of a text in whole characters
(`isBoundary_utf8_iff`).  Walking back from a limit stops at the last of them, and what is in front
of it is the longest beginning that fits (`longestWithin_beginningWithin`).  A character has at
most four bytes, so at most three are given up (`LongestWithin.limit_le`).
-/

namespace ColumnVeil.Text

/-! ## The bytes of a character -/

theorem isContinuation_ofNat {code : Nat} (byte : code < 256) :
    isContinuation (UInt8.ofNat code) = true ↔ 128 ≤ code ∧ code < 192 := by
  have value : (UInt8.ofNat code).toNat = code := by
    rw [UInt8.toNat_ofNat', Nat.mod_eq_of_lt byte]
  simp only [isContinuation, Bool.and_eq_true, decide_eq_true_eq, UInt8.le_iff_toNat_le, value,
    UInt8.reduceToNat]
  omega

/-- A character is a byte that does not continue one, and behind it only bytes that do. -/
theorem exists_utf8EncodeChar (character : Char) :
    ∃ lead tail, String.utf8EncodeChar character = lead :: tail ∧ isContinuation lead = false ∧
      ∀ byte ∈ tail, isContinuation byte = true := by
  have continues (code : Nat) : isContinuation (UInt8.ofNat (code % 64 + 128)) = true := by
    rw [isContinuation_ofNat (by omega)]
    omega
  have leads {code : Nat} (bound : code < 256) (outside : code < 128 ∨ 192 ≤ code) :
      isContinuation (UInt8.ofNat code) = false := by
    rw [Bool.eq_false_iff, ne_eq, isContinuation_ofNat bound]
    omega
  unfold String.utf8EncodeChar
  dsimp only
  split_ifs
  all_goals
    refine ⟨_, _, rfl, leads (by omega) (by omega), ?_⟩
    simp only [List.mem_cons, List.not_mem_nil, or_false, forall_eq_or_imp, forall_eq,
      false_implies, implies_true, continues, and_self]

/-- The bytes of characters begin with one that does not continue a character. -/
theorem isContinuation_of_head? {characters : List Char} {byte : UInt8}
    (first : (characters.flatMap String.utf8EncodeChar).head? = some byte) :
    isContinuation byte = false := by
  cases characters with
  | nil =>
      cases first
  | cons character characters =>
      rcases exists_utf8EncodeChar character with ⟨lead, tail, encoded, leads, -⟩
      rw [List.flatMap_cons, encoded, List.cons_append, List.head?_cons] at first
      rwa [← Option.some.inj first]

/-! ## Boundaries -/

section Boundaries

variable {bytes front back : Bytes} {offset limit : Nat}

theorem isBoundary_zero : isBoundary bytes 0 = true := rfl

theorem isBoundary_iff :
    isBoundary bytes offset = true ↔ offset = 0 ∨ offset = bytes.length ∨
      ∃ byte, bytes[offset]? = some byte ∧ isContinuation byte = false := by
  simp [isBoundary, or_assoc, Option.any_eq_true]

/-- Bytes that begin with a character keep their boundaries behind any others. -/
theorem isBoundary_append_add
    (leads : ∀ byte, back.head? = some byte → isContinuation byte = false) :
    isBoundary (front ++ back) (front.length + offset) = isBoundary back offset := by
  have place : (front ++ back)[front.length + offset]? = back[offset]? := by
    rw [List.getElem?_append_right (Nat.le_add_right _ _), Nat.add_sub_cancel_left]
  rw [Bool.eq_iff_iff, isBoundary_iff, isBoundary_iff, place, List.length_append,
    Nat.add_left_cancel_iff]
  cases offset with
  | zero =>
      cases back with
      | nil => simp
      | cons lead tail => simp [leads lead rfl]
  | succ offset =>
      simp

/-- There is no boundary inside a character. -/
theorem isBoundary_cons_append {lead : UInt8} {tail : Bytes}
    (continues : ∀ byte ∈ tail, isContinuation byte = true) (inside : offset < tail.length) :
    isBoundary (lead :: tail ++ back) (offset + 1) = false := by
  have place : (lead :: tail ++ back)[offset + 1]? = some tail[offset] := by
    rw [List.cons_append, List.getElem?_cons_succ, List.getElem?_append_left inside,
      List.getElem?_eq_getElem inside]
  rw [Bool.eq_false_iff, ne_eq, isBoundary_iff, place]
  rintro (start | stop | ⟨byte, found, leads⟩)
  · cases start
  · rw [List.length_append, List.length_cons] at stop
    omega
  · rw [← Option.some.inj found, continues _ (List.getElem_mem inside)] at leads
    cases leads

/-- The boundaries of a text are the lengths of its beginnings in whole characters. -/
theorem isBoundary_flatMap_iff {characters : List Char} :
    isBoundary (characters.flatMap String.utf8EncodeChar) offset = true ↔
      ∃ beginning, beginning <+: characters ∧
        (beginning.flatMap String.utf8EncodeChar).length = offset := by
  induction characters generalizing offset with
  | nil =>
      simp only [List.flatMap_nil, isBoundary_iff, List.length_nil, List.getElem?_nil, List.prefix_nil,
        exists_eq_left, reduceCtorEq, false_and, exists_false, or_false, or_self]
      exact eq_comm
  | cons character characters inductionHypothesis =>
      rcases exists_utf8EncodeChar character with ⟨lead, tail, encoded, -, continues⟩
      rw [List.flatMap_cons]
      constructor
      -- The offset is in front of the first character, inside it or behind it.
      · intro boundary
        cases offset with
        | zero =>
            exact ⟨[], List.nil_prefix, rfl⟩
        | succ offset =>
            by_cases inside : offset < tail.length
            · rw [encoded, isBoundary_cons_append continues inside] at boundary
              cases boundary
            · have behind : (String.utf8EncodeChar character).length ≤ offset + 1 := by
                rw [encoded, List.length_cons]
                omega
              rcases Nat.exists_eq_add_of_le behind with ⟨rest, position⟩
              rw [position, isBoundary_append_add fun _ => isContinuation_of_head?,
                inductionHypothesis] at boundary
              rcases boundary with ⟨beginning, whole, length⟩
              refine ⟨character :: beginning, List.cons_prefix_cons.mpr ⟨rfl, whole⟩, ?_⟩
              rw [List.flatMap_cons, List.length_append, length, position]
      · rintro ⟨beginning, whole, rfl⟩
        cases beginning with
        | nil =>
            exact isBoundary_zero
        | cons first beginning =>
            rcases List.cons_prefix_cons.mp whole with ⟨rfl, rest⟩
            rw [List.flatMap_cons, List.length_append,
              isBoundary_append_add fun _ => isContinuation_of_head?, inductionHypothesis]
            exact ⟨beginning, rest, rfl⟩

/-- An offset is a boundary just if a beginning of the text in whole characters ends there. -/
theorem isBoundary_utf8_iff {text : String} :
    isBoundary (utf8 text) offset = true ↔
      ∃ beginning : String, beginning.toList <+: text.toList ∧ beginning.utf8ByteSize = offset := by
  rw [← String.ofList_toList (s := text), utf8_ofList, isBoundary_flatMap_iff, String.toList_ofList]
  constructor
  · rintro ⟨beginning, whole, length⟩
    refine ⟨String.ofList beginning, ?_, ?_⟩
    · rwa [String.toList_ofList]
    · rw [← length_utf8, utf8_ofList, length]
  · rintro ⟨beginning, whole, size⟩
    refine ⟨beginning.toList, whole, ?_⟩
    rw [← utf8_ofList, String.ofList_toList, length_utf8, size]

/-! ## Walking back -/

theorem boundaryBefore_le : boundaryBefore bytes limit ≤ limit := by
  fun_induction boundaryBefore bytes limit with
  | case1 => exact Nat.le_refl 0
  | case2 offset boundary => exact Nat.le_refl _
  | case3 offset inside inductionHypothesis => exact Nat.le_succ_of_le inductionHypothesis

theorem isBoundary_boundaryBefore : isBoundary bytes (boundaryBefore bytes limit) = true := by
  fun_induction boundaryBefore bytes limit with
  | case1 => exact isBoundary_zero
  | case2 offset boundary => exact boundary
  | case3 offset inside inductionHypothesis => exact inductionHypothesis

/-- The walk passes no boundary. -/
theorem le_boundaryBefore (boundary : isBoundary bytes offset = true) (below : offset ≤ limit) :
    offset ≤ boundaryBefore bytes limit := by
  fun_induction boundaryBefore bytes limit with
  | case1 => exact below
  | case2 start found => exact below
  | case3 start inside inductionHypothesis =>
      apply inductionHypothesis
      apply Nat.le_of_lt_succ
      apply Nat.lt_of_le_of_ne below
      rintro rfl
      exact inside boundary

end Boundaries

/-! ## The longest beginning -/

/-- The longest beginning of a text, in whole characters, that fits into so many bytes. -/
structure LongestWithin (limit : Nat) (text kept : String) : Prop where
  whole : kept.toList <+: text.toList
  fits : kept.utf8ByteSize ≤ limit
  longest : ∀ other : String, other.toList <+: text.toList → other.utf8ByteSize ≤ limit →
    other.toList <+: kept.toList

section LongestWithin

variable {limit : Nat} {text kept : String}

/-- A character has at most four bytes, so at most three are given up. -/
theorem LongestWithin.limit_le (longest : LongestWithin limit text kept)
    (beyond : limit < text.utf8ByteSize) : limit ≤ kept.utf8ByteSize + 3 := by
  rcases longest.whole with ⟨rest, whole⟩
  cases rest with
  | nil =>
      rw [List.append_nil, String.toList_inj] at whole
      have fits := longest.fits
      rw [whole] at fits
      omega
  | cons next rest =>
      -- With a fourth byte to spare, the next character would fit as well.
      apply Nat.le_of_not_lt
      intro short
      have longer : (kept ++ String.singleton next).toList = kept.toList ++ [next] := by
        rw [String.toList_append, String.toList_singleton]
      have within : (kept ++ String.singleton next).toList <+: text.toList := by
        rw [longer, ← whole]
        exact ⟨rest, by rw [List.append_assoc, List.singleton_append]⟩
      have size : (kept ++ String.singleton next).utf8ByteSize ≤ limit := by
        have narrow := next.utf8Size_le_four
        rw [String.utf8ByteSize_append, String.utf8ByteSize_singleton]
        omega
      have length := (longest.longest _ within size).length_le
      rw [longer, List.length_append, List.length_singleton] at length
      omega

/-- Of two beginnings of a text the one with fewer bytes begins the other. -/
theorem prefix_of_utf8ByteSize_le {first second : String} (firstWhole : first.toList <+: text.toList)
    (secondWhole : second.toList <+: text.toList)
    (shorter : first.utf8ByteSize ≤ second.utf8ByteSize) : first.toList <+: second.toList := by
  rcases List.prefix_or_prefix_of_prefix firstWhole secondWhole with begins | ⟨rest, whole⟩
  · exact begins
  · have joined : first = second ++ String.ofList rest := by
      rw [← String.toList_inj, String.toList_append, String.toList_ofList, whole]
    have empty : String.ofList rest = "" := by
      rw [joined, String.utf8ByteSize_append] at shorter
      rw [← String.utf8ByteSize_eq_zero_iff]
      omega
    rw [empty, String.append_empty] at joined
    exact joined ▸ List.prefix_refl _

/-- The bytes of a beginning spell it. -/
theorem decode?_take (whole : kept.toList <+: text.toList) :
    decode? ((utf8 text).take kept.utf8ByteSize) = some kept := by
  rcases whole with ⟨rest, whole⟩
  rw [decode?_eq_some_iff, ← String.ofList_toList (s := text), ← whole, String.ofList_append,
    String.ofList_toList, utf8_append, ← length_utf8, List.take_left]

theorem beginningWithin_eq (whole : kept.toList <+: text.toList)
    (size : kept.utf8ByteSize = boundaryBefore (utf8 text) limit) :
    beginningWithin limit text = kept := by
  rw [beginningWithin, ← size]
  exact decodeLossy_of_decode (decode?_take whole)

/-- What is kept ends where the walk does. -/
theorem beginningWithin_ends (limit : Nat) (text : String) :
    (beginningWithin limit text).toList <+: text.toList ∧
      (beginningWithin limit text).utf8ByteSize = boundaryBefore (utf8 text) limit := by
  have boundary : isBoundary (utf8 text) (boundaryBefore (utf8 text) limit) = true :=
    isBoundary_boundaryBefore
  rcases isBoundary_utf8_iff.mp boundary with ⟨kept, whole, size⟩
  rw [beginningWithin_eq whole size]
  exact ⟨whole, size⟩

/-- Walking back from a limit leaves the longest beginning that fits. -/
theorem longestWithin_beginningWithin (limit : Nat) (text : String) :
    LongestWithin limit text (beginningWithin limit text) := by
  rcases beginningWithin_ends limit text with ⟨whole, size⟩
  refine ⟨whole, ?_, ?_⟩
  · rw [size]
    exact boundaryBefore_le
  · intro other otherWhole otherFits
    apply prefix_of_utf8ByteSize_le otherWhole whole
    rw [size]
    exact le_boundaryBefore (isBoundary_utf8_iff.mpr ⟨other, otherWhole, rfl⟩) otherFits

/-- Three bytes of the last character would fit. -/
example : beginningWithin 8 "é€😀" = "é€" := by
  decide +kernel

end LongestWithin

end ColumnVeil.Text
