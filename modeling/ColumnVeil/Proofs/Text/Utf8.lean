import ColumnVeil.Text.Utf8

/-!
# Texts and their bytes

The bytes of a text are those of its characters in a row.  They determine the text, and reading
valid bytes gives back the text that they spell.
-/

namespace ColumnVeil.Text

theorem loop_eq (bytes : ByteArray) (index : Nat) (read : List UInt8) :
    ByteArray.toList.loop bytes index read = read.reverse ++ bytes.data.toList.drop index := by
  induction index, read using ByteArray.toList.loop.induct bytes with
  | case1 index read inside inductionHypothesis =>
      have place : index < bytes.data.toList.length := inside
      have found : bytes.get! index = bytes.data.toList[index] := by
        rw [ByteArray.get!, Array.getElem_toList]
        exact getElem!_pos bytes.data index inside
      rw [ByteArray.toList.loop, if_pos inside, inductionHypothesis, List.drop_eq_getElem_cons place,
        found, List.reverse_cons, List.append_assoc, List.singleton_append]
  | case2 index read outside =>
      rw [ByteArray.toList.loop, if_neg outside, List.drop_eq_nil_of_le (Nat.le_of_not_lt outside),
        List.append_nil]

theorem utf8_eq_data (text : String) : utf8 text = text.toByteArray.data.toList := by
  rw [utf8, String.toUTF8_eq_toByteArray, ByteArray.toList, loop_eq]
  rfl

theorem utf8_ofList (characters : List Char) :
    utf8 (String.ofList characters) = characters.flatMap String.utf8EncodeChar := by
  rw [utf8_eq_data, String.toByteArray_ofList, List.utf8Encode, List.data_toByteArray]

theorem utf8_ofList_of_ascii {characters : List Char}
    (plain : ∀ character ∈ characters, character.toNat < 128) :
    utf8 (String.ofList characters) =
      characters.map fun character => UInt8.ofNat character.toNat := by
  rw [utf8_ofList]
  induction characters with
  | nil =>
      rfl
  | cons character characters inductionHypothesis =>
      have narrow : character.utf8Size = 1 := by
        rw [Char.utf8Size_eq_one_iff, UInt32.le_iff_toNat_le]
        exact Nat.le_of_lt_succ (plain character List.mem_cons_self)
      rw [List.flatMap_cons, String.utf8EncodeChar_eq_singleton narrow, List.map_cons,
        inductionHypothesis fun later member => plain later (List.mem_cons_of_mem _ member)]
      rfl

theorem utf8_append (first second : String) : utf8 (first ++ second) = utf8 first ++ utf8 second := by
  rw [utf8_eq_data, utf8_eq_data, utf8_eq_data, String.toByteArray_append, ByteArray.data_append,
    Array.toList_append]

theorem length_utf8 (text : String) : (utf8 text).length = text.utf8ByteSize := by
  rw [utf8_eq_data, Array.length_toList]
  rfl

theorem utf8_injective {first second : String} (same : utf8 first = utf8 second) :
    first = second := by
  rw [utf8_eq_data, utf8_eq_data, Array.toList_inj] at same
  exact String.toByteArray_inj.mp (ByteArray.ext same)

/-- Valid bytes spell the text whose bytes they are. -/
theorem decode?_eq_some_iff {bytes : Bytes} {text : String} :
    decode? bytes = some text ↔ utf8 text = bytes := by
  rw [decode?, String.fromUTF8?, Option.dite_none_right_eq_some, utf8_eq_data]
  constructor
  · rintro ⟨valid, spelled⟩
    rw [← Option.some.inj spelled]
    rfl
  · rintro rfl
    exact ⟨text.isValidUTF8, rfl⟩

end ColumnVeil.Text
