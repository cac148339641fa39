import Mathlib.Logic.Basic
import Mathlib.Tactic.SplitIfs
import ColumnVeil.Proofs.Text.Case
import ColumnVeil.Proofs.Text.Utf8

/-!
# Texts without a zero

On the wire a text ends at the first zero, so a text that holds a zero character is cut short
there.  A thing is without a zero if no text in it holds one; for a text this is seen from its
bytes as well, as no other character is encoded with a zero among its bytes.
-/

namespace ColumnVeil

/-- Things that have texts. -/
class Textual (α : Type) where
  /-- No zero occurs in the texts of a thing. -/
  Zeroless : α → Prop

export Textual (Zeroless)

section Collections

variable {α β : Type} [Textual α]

instance : Textual Char where
  Zeroless character := character ≠ Char.ofNat 0

instance : Textual String where
  Zeroless text := Char.ofNat 0 ∉ text.toList

instance : Textual (List α) where
  Zeroless items := ∀ item ∈ items, Zeroless item

instance : Textual (Option α) where
  Zeroless item := ∀ found, item = some found → Zeroless found

instance : Textual Bool where
  Zeroless _ := True

@[simp]
theorem zeroless_nil : Zeroless ([] : List α) :=
  List.forall_mem_nil _

@[simp]
theorem zeroless_cons {item : α} {items : List α} :
    Zeroless (item :: items) ↔ Zeroless item ∧ Zeroless items :=
  List.forall_mem_cons

@[simp]
theorem zeroless_append {first second : List α} :
    Zeroless (first ++ second) ↔ Zeroless first ∧ Zeroless second :=
  List.forall_mem_append

@[simp]
theorem forall_mem_zeroless {items : List α} :
    (∀ item ∈ items, Zeroless item) ↔ Zeroless items :=
  Iff.rfl

@[simp]
theorem zeroless_map {items : List β} {f : β → α} :
    Zeroless (items.map f) ↔ ∀ item ∈ items, Zeroless (f item) :=
  List.forall_mem_map

@[simp]
theorem zeroless_none : Zeroless (none : Option α) := by
  rintro found ⟨⟩

@[simp]
theorem zeroless_some {item : α} : Zeroless (some item) ↔ Zeroless item := by
  simp only [Zeroless, Option.some.injEq, forall_eq']

@[simp]
theorem zeroless_optionToList {item : Option α} : Zeroless item.toList ↔ Zeroless item := by
  cases item <;> simp

@[simp]
theorem zeroless_bool (value : Bool) : Zeroless value :=
  trivial

@[simp]
theorem zeroless_ite {condition : Prop} [Decidable condition] {first second : α} :
    Zeroless (if condition then first else second) ↔
      (condition → Zeroless first) ∧ (¬ condition → Zeroless second) := by
  rw [apply_ite Zeroless, ite_prop_iff_and]

variable [Textual β]

instance : Textual (α × β) where
  Zeroless pair := Zeroless pair.1 ∧ Zeroless pair.2

@[simp]
theorem zeroless_pair {first : α} {second : β} :
    Zeroless (first, second) ↔ Zeroless first ∧ Zeroless second :=
  Iff.rfl

end Collections

/-! ## Texts and their bytes -/

@[simp]
theorem zeroless_toList {text : String} : Zeroless text.toList ↔ Zeroless text :=
  List.forall_mem_ne'

@[simp]
theorem zeroless_ofList {characters : List Char} :
    Zeroless (String.ofList characters) ↔ Zeroless characters := by
  rw [← zeroless_toList, String.toList_ofList]

@[simp]
theorem zeroless_append_text {first second : String} :
    Zeroless (first ++ second) ↔ Zeroless first ∧ Zeroless second := by
  rw [← zeroless_toList, String.toList_append, zeroless_append, zeroless_toList, zeroless_toList]

namespace Text

/-- Only the character of code zero is encoded with a byte that is zero. -/
theorem zero_mem_utf8EncodeChar {character : Char} :
    0 ∈ String.utf8EncodeChar character ↔ character = Char.ofNat 0 := by
  constructor
  · intro member
    have valid : character.val.toNat.isValidChar := character.valid
    have code : character.val.toNat = 0 := by
      simp only [String.utf8EncodeChar] at member
      split_ifs at member
      all_goals
        simp only [List.mem_cons, List.not_mem_nil, or_false, ← UInt8.toNat_inj,
          UInt8.toNat_ofNat', UInt8.toNat_zero] at member
        unfold Nat.isValidChar at valid
        omega
    rw [← Char.ofNat_toNat character, Char.toNat, code]
  · rintro rfl
    decide

/-- The bytes of a text hold a zero just if the text does. -/
theorem zero_mem_utf8 {text : String} : 0 ∈ utf8 text ↔ ¬ Zeroless text := by
  rw [← String.ofList_toList (s := text), utf8_ofList, zeroless_ofList]
  simp only [List.mem_flatMap, zero_mem_utf8EncodeChar, Zeroless, not_forall, not_not, exists_prop]

end Text

instance (character : Char) : Decidable (Zeroless character) :=
  inferInstanceAs (Decidable (character ≠ Char.ofNat 0))

/-- Whether no byte of a text is zero, which for a fixed text is quickly computed. -/
def Text.isPlain (text : String) : Bool :=
  text.toByteArray.data.toList.all (· != 0)

@[simp low]
theorem zeroless_of_isPlain {text : String} (plain : Text.isPlain text) : Zeroless text := by
  rw [← not_not (a := Zeroless text), ← Text.zero_mem_utf8, Text.utf8_eq_data]
  intro member
  exact bne_iff_ne.mp (List.all_eq_true.mp plain 0 member) rfl

@[simp]
theorem zeroless_getD_empty {text : Option String} :
    Zeroless (text.getD "") ↔ Zeroless text := by
  cases text <;> simp +decide

theorem zeroless_foldl_append {separator : String} (plain : Zeroless separator)
    {texts : List String} {before : String} :
    Zeroless (texts.foldl (fun text next => text ++ separator ++ next) before) ↔
      Zeroless before ∧ Zeroless texts := by
  induction texts generalizing before with
  | nil => simp
  | cons text texts inductionHypothesis => simp [inductionHypothesis, plain, and_assoc]

/-! ## Letter case -/

namespace Text

theorem zeroless_lowerChar {character : Char} (zeroless : Zeroless character) :
    Zeroless (lowerChar character) := by
  rcases lowerChar_cases character with ⟨alone, -⟩ | ⟨entry, listed, member, becomes⟩
  · rwa [alone]
  · intro zero
    have positive := (isValidChar_partner listed member).1
    rw [← becomes, zero] at positive
    exact absurd positive (by decide)

theorem zeroless_lowerFrom {before characters : List Char} (zeroless : Zeroless characters) :
    Zeroless (lowerFrom before characters) := by
  induction characters generalizing before with
  | nil => exact zeroless
  | cons character rest inductionHypothesis =>
      rw [zeroless_cons] at zeroless
      simp only [lowerFrom, zeroless_append]
      refine ⟨?_, inductionHypothesis zeroless.2⟩
      have partner := zeroless_lowerChar zeroless.1
      simp only [zeroless_ite, zeroless_cons]
      simp +decide [partner]

theorem zeroless_lowercase {text : String} (zeroless : Zeroless text) :
    Zeroless (lowercase text) := by
  rw [lowercase, zeroless_ofList]
  exact zeroless_lowerFrom (zeroless_toList.mpr zeroless)

end Text
end ColumnVeil
