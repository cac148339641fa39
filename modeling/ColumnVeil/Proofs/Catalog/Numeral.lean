import ColumnVeil.Catalog.Encoding
import Mathlib.Data.List.TakeWhile
import Mathlib.Data.Nat.Digits.Lemmas
import Mathlib.Tactic.FinCases

/-!
# Decimal numerals

An integer is written as digits with or without a sign, and it can be written in many ways:
a plus sign and leading zeros change nothing.  `Numeral` is such a way of writing, with the
integer as its value.  A text is read as an integer exactly if it is a numeral between
blanks, and of all numerals of an integer the canonical one is what is written for it.
-/

namespace ColumnVeil

/-! ## Blanks around a text -/

namespace Text

theorem dropWhile_isBlank_of_solid {characters : List Char} (present : characters ≠ [])
    (solid : ∀ character ∈ characters, isBlank character = false) (rest : List Char) :
    (characters ++ rest).dropWhile isBlank = characters ++ rest := by
  cases characters with
  | nil =>
      exact absurd rfl present
  | cons character characters =>
      have first := solid character List.mem_cons_self
      rw [List.cons_append, List.dropWhile_cons_of_neg (by rw [first]; exact Bool.false_ne_true)]

/-- The blanks around characters none of which is blank are all that is trimmed. -/
theorem trimChars_of_solid {front characters back : List Char} (present : characters ≠ [])
    (solid : ∀ character ∈ characters, isBlank character = false)
    (blankFront : ∀ character ∈ front, isBlank character)
    (blankBack : ∀ character ∈ back, isBlank character) :
    trimChars (front ++ characters ++ back) = characters := by
  have backwards : ∀ character ∈ characters.reverse, isBlank character = false :=
    fun character member => solid character (List.mem_reverse.mp member)
  have blankBackwards : ∀ character ∈ back.reverse, isBlank character :=
    fun character member => blankBack character (List.mem_reverse.mp member)
  have presentBackwards : characters.reverse ≠ [] := fun none =>
    present (List.reverse_eq_nil_iff.mp none)
  have rest := dropWhile_isBlank_of_solid presentBackwards backwards []
  rw [List.append_nil] at rest
  rw [trimChars, List.append_assoc, List.dropWhile_append_of_pos blankFront,
    dropWhile_isBlank_of_solid present solid, List.reverse_append,
    List.dropWhile_append_of_pos blankBackwards, rest, List.reverse_reverse]

/-- Nothing but blanks is trimmed. -/
theorem exists_blanks_around (characters : List Char) :
    ∃ front back, (∀ character ∈ front, isBlank character) ∧
      (∀ character ∈ back, isBlank character) ∧
        characters = front ++ trimChars characters ++ back := by
  generalize inner : characters.dropWhile isBlank = middle
  have outer : characters.takeWhile isBlank ++ middle = characters := by
    rw [← inner, List.takeWhile_append_dropWhile]
  have split : middle.reverse.takeWhile isBlank ++ middle.reverse.dropWhile isBlank =
      middle.reverse := List.takeWhile_append_dropWhile
  have last : (middle.reverse.dropWhile isBlank).reverse ++
      (middle.reverse.takeWhile isBlank).reverse = middle := by
    rw [← List.reverse_append, split, List.reverse_reverse]
  refine ⟨characters.takeWhile isBlank, (middle.reverse.takeWhile isBlank).reverse, ?_, ?_, ?_⟩
  · exact fun character member => List.mem_takeWhile_imp member
  · exact fun character member => List.mem_takeWhile_imp (List.mem_reverse.mp member)
  · rw [trimChars, inner, List.append_assoc, last, outer]

end Text

namespace Decimal

/-! ## Numerals and their values -/

/-- What may stand in front of the digits of an integer. -/
inductive Sign
  | absent
  | plus
  | minus
deriving DecidableEq

/-- The character of a sign. -/
def Sign.characters : Sign → List Char
  | .absent => []
  | .plus => ['+']
  | .minus => ['-']

/-- A way to write an integer: an optional sign and at least one digit. -/
structure Numeral where
  sign : Sign
  digits : List (Fin 10)
  nonempty : digits ≠ []

/-- The characters of digits. -/
def spell (digits : List (Fin 10)) : List Char :=
  digits.map fun digit => Nat.digitChar digit.val

/-- The number of digits, the most significant first. -/
def number (digits : List (Fin 10)) : Nat :=
  Nat.ofDigits 10 (digits.reverse.map Fin.val)

namespace Numeral

/-- The characters of a numeral. -/
def characters (numeral : Numeral) : List Char :=
  numeral.sign.characters ++ spell numeral.digits

/-- The text of a numeral. -/
def text (numeral : Numeral) : String :=
  String.ofList numeral.characters

/-- The integer of a numeral. -/
def value (numeral : Numeral) : Int :=
  if numeral.sign = .minus then -(number numeral.digits : Int) else number numeral.digits

/-- A text is a numeral, with any blanks in front of it and behind it. -/
def Within (numeral : Numeral) (text : String) : Prop :=
  ∃ front back, (∀ character ∈ front, Text.isBlank character) ∧
    (∀ character ∈ back, Text.isBlank character) ∧
      text.toList = front ++ numeral.characters ++ back

/-- A minus sign marks the negative integers, there is no plus sign, and a zero leads no
other digits. -/
structure IsCanonical (numeral : Numeral) : Prop where
  sign : numeral.sign = if numeral.value < 0 then .minus else .absent
  leading : numeral.digits.head numeral.nonempty = 0 → numeral.digits = [0]

end Numeral

/-! ## Digits -/

theorem toNat_digitChar (digit : Fin 10) : (Nat.digitChar digit.val).toNat = 48 + digit.val := by
  revert digit
  decide

theorem isDigit_digitChar (digit : Fin 10) : (Nat.digitChar digit.val).isDigit = true := by
  revert digit
  decide

theorem isBlank_digitChar (digit : Fin 10) : Text.isBlank (Nat.digitChar digit.val) = false := by
  revert digit
  decide

theorem exists_digit_of_isDigit {character : Char} (digit : character.isDigit = true) :
    ∃ value : Fin 10, character = Nat.digitChar value.val := by
  simp only [Char.isDigit, Bool.and_eq_true, decide_eq_true_eq, ge_iff_le, UInt32.le_iff_toNat_le]
    at digit
  have low : 48 ≤ character.toNat := digit.1
  have high : character.toNat ≤ 57 := digit.2
  refine ⟨⟨character.toNat - 48, by omega⟩, ?_⟩
  have spelled : (Nat.digitChar (character.toNat - 48)).toNat = 48 + (character.toNat - 48) :=
    toNat_digitChar ⟨character.toNat - 48, by omega⟩
  apply Char.ext
  apply UInt32.toNat_inj.mp
  change character.toNat = (Nat.digitChar (character.toNat - 48)).toNat
  omega

/-- Characters are digits exactly if digits spell them. -/
theorem all_isDigit_iff {characters : List Char} :
    characters.all Char.isDigit = true ↔ ∃ digits, characters = spell digits := by
  constructor
  · intro digits
    induction characters with
    | nil =>
        exact ⟨[], rfl⟩
    | cons character characters inductionHypothesis =>
        simp only [List.all_cons, Bool.and_eq_true] at digits
        rcases exists_digit_of_isDigit digits.1 with ⟨digit, rfl⟩
        rcases inductionHypothesis digits.2 with ⟨rest, rfl⟩
        exact ⟨digit :: rest, rfl⟩
  · rintro ⟨digits, rfl⟩
    simp only [spell, List.all_map, List.all_eq_true, Function.comp_apply]
    exact fun digit _ => isDigit_digitChar digit

theorem spell_eq_nil_iff {digits : List (Fin 10)} : spell digits = [] ↔ digits = [] :=
  List.map_eq_nil_iff

theorem natOfDigits_spell (digits : List (Fin 10)) : natOfDigits (spell digits) = number digits := by
  rw [natOfDigits, spell, List.foldl_map, number, Nat.ofDigits_eq_foldr, List.foldr_map,
    List.foldr_reverse]
  congr 1
  funext value digit
  rw [toNat_digitChar, Nat.add_sub_cancel_left, Nat.add_comm]
  rfl

/-! ## Reading -/

/-- The sign that characters begin with, and those behind it. -/
def unsigned (characters : List Char) : Bool × List Char :=
  match characters with
  | '-' :: rest => (true, rest)
  | '+' :: rest => (false, rest)
  | rest => (false, rest)

theorem exists_sign (characters : List Char) :
    ∃ sign : Sign, characters = sign.characters ++ (unsigned characters).2 ∧
      (unsigned characters).1 = decide (sign = .minus) := by
  rw [unsigned.eq_def]
  split
  · exact ⟨.minus, rfl, rfl⟩
  · exact ⟨.plus, rfl, rfl⟩
  · exact ⟨.absent, rfl, rfl⟩

theorem unsigned_characters (numeral : Numeral) :
    unsigned numeral.characters = (decide (numeral.sign = .minus), spell numeral.digits) := by
  rcases numeral with ⟨sign, digits, nonempty⟩
  cases sign with
  | plus => rfl
  | minus => rfl
  | absent =>
      cases digits with
      | nil =>
          exact absurd rfl nonempty
      | cons digit digits =>
          -- A digit is neither of the two signs.
          fin_cases digit <;> rfl

/-- A text is read as an integer exactly if it is a numeral of the integer. -/
theorem parseInt?_eq_some_iff {text : String} {value : Int} :
    parseInt? text = some value ↔
      ∃ numeral : Numeral, text.toList = numeral.characters ∧ numeral.value = value := by
  have read : parseInt? text =
      if (unsigned text.toList).2.isEmpty || !(unsigned text.toList).2.all Char.isDigit then none
      else some (if (unsigned text.toList).1 then -(natOfDigits (unsigned text.toList).2 : Int)
        else natOfDigits (unsigned text.toList).2) := rfl
  rw [read]
  constructor
  · intro parsed
    rcases exists_sign text.toList with ⟨sign, spelled, negative⟩
    simp only [Option.ite_none_left_eq_some, Bool.or_eq_true, Bool.not_eq_true', not_or,
      Bool.not_eq_false, List.isEmpty_iff] at parsed
    rcases parsed with ⟨⟨present, decimal⟩, same⟩
    rcases all_isDigit_iff.mp decimal with ⟨digits, shown⟩
    rw [shown, natOfDigits_spell, negative] at same
    rw [shown] at spelled present
    refine ⟨⟨sign, digits, fun none => present (spell_eq_nil_iff.mpr none)⟩, spelled, ?_⟩
    simpa [Numeral.value] using same
  · rintro ⟨numeral, spelled, rfl⟩
    have decimal := all_isDigit_iff.mpr ⟨numeral.digits, rfl⟩
    have present : (spell numeral.digits).isEmpty = false :=
      List.isEmpty_eq_false_iff.mpr fun none => numeral.nonempty (spell_eq_nil_iff.mp none)
    rw [spelled, unsigned_characters]
    simp [present, decimal, natOfDigits_spell, Numeral.value]

namespace Numeral

theorem solid_characters (numeral : Numeral) :
    ∀ character ∈ numeral.characters, Text.isBlank character = false := by
  intro character member
  rw [characters, List.mem_append] at member
  rcases member with sign | digit
  · cases kind : numeral.sign with
    | absent =>
        rw [kind] at sign
        cases sign
    | plus =>
        rw [kind] at sign
        rw [List.mem_singleton.mp sign]
        decide
    | minus =>
        rw [kind] at sign
        rw [List.mem_singleton.mp sign]
        decide
  · rcases List.mem_map.mp digit with ⟨value, -, rfl⟩
    exact isBlank_digitChar value

theorem characters_ne_nil (numeral : Numeral) : numeral.characters ≠ [] := by
  intro none
  exact numeral.nonempty (spell_eq_nil_iff.mp (List.append_eq_nil_iff.mp none).2)

/-- A numeral between blanks is what is left of them. -/
theorem within_iff {numeral : Numeral} {text : String} :
    numeral.Within text ↔ (Text.trim text).toList = numeral.characters := by
  rw [Text.trim, String.toList_ofList]
  constructor
  · rintro ⟨front, back, blankFront, blankBack, spelled⟩
    rw [spelled]
    exact Text.trimChars_of_solid numeral.characters_ne_nil numeral.solid_characters blankFront
      blankBack
  · intro trimmed
    rcases Text.exists_blanks_around text.toList with ⟨front, back, blankFront, blankBack, split⟩
    rw [trimmed] at split
    exact ⟨front, back, blankFront, blankBack, split⟩

/-- What is left of a text is read as an integer exactly if the text is a numeral of it
between blanks. -/
theorem parseInt?_trim_eq_some_iff {text : String} {value : Int} :
    parseInt? (Text.trim text) = some value ↔
      ∃ numeral : Numeral, numeral.Within text ∧ numeral.value = value := by
  simp only [parseInt?_eq_some_iff, within_iff]

theorem within_text (numeral : Numeral) : numeral.Within numeral.text :=
  ⟨[], [], fun _ none => absurd none List.not_mem_nil, fun _ none => absurd none List.not_mem_nil,
    by rw [text, String.toList_ofList, List.nil_append, List.append_nil]⟩

end Numeral

/-! ## Writing -/

/-- The digits of a number, without leading zeros. -/
def digitsOf (value : Nat) : List (Fin 10) :=
  if value = 0 then [0] else (Nat.digits 10 value).reverse.map (Fin.ofNat 10)

theorem digitsOf_ne_nil (value : Nat) : digitsOf value ≠ [] := by
  rw [digitsOf]
  split
  · exact List.cons_ne_nil _ _
  · rename_i nonzero
    rw [ne_eq, List.map_eq_nil_iff, List.reverse_eq_nil_iff, Nat.digits_eq_nil_iff_eq_zero]
    exact nonzero

theorem map_val_digitsOf {value : Nat} (nonzero : value ≠ 0) :
    (digitsOf value).map Fin.val = (Nat.digits 10 value).reverse := by
  rw [digitsOf, if_neg nonzero, List.map_map]
  conv_rhs => rw [← List.map_id (Nat.digits 10 value).reverse]
  refine List.map_congr_left fun digit member => ?_
  exact Nat.mod_eq_of_lt (Nat.digits_lt_base (by decide) (List.mem_reverse.mp member))

theorem number_digitsOf (value : Nat) : number (digitsOf value) = value := by
  by_cases zero : value = 0
  · rw [zero]
    rfl
  · rw [number, List.map_reverse, map_val_digitsOf zero, List.reverse_reverse, Nat.ofDigits_digits]

/-- The digits of a number are what is printed for it. -/
theorem toDigits_eq_spell (value : Nat) : Nat.toDigits 10 value = spell (digitsOf value) := by
  induction value using Nat.strongRecOn with
  | ind value inductionHypothesis =>
      by_cases single : value < 10
      · have small : ∀ digit : Fin 10, [Nat.digitChar digit.val] = spell (digitsOf digit.val) := by
          decide
        rw [Nat.toDigits_of_lt_base single]
        exact small ⟨value, single⟩
      · have shorter := inductionHypothesis (value / 10) (by omega)
        have last : digitsOf value = digitsOf (value / 10) ++ [Fin.ofNat 10 (value % 10)] := by
          rw [digitsOf, if_neg (by omega), Nat.digits_def' (by decide) (by omega), digitsOf,
            if_neg (by omega), List.reverse_cons, List.map_append]
          rfl
        rw [Nat.toDigits_of_base_le (by decide) (by omega), shorter, last, spell, spell,
          List.map_append, List.map_singleton]
        congr 3
        exact (Nat.mod_eq_of_lt (Nat.mod_lt _ (by decide))).symm

/-- Digits without a leading zero are the digits of their number. -/
theorem digitsOf_number {digits : List (Fin 10)} (nonempty : digits ≠ [])
    (leading : digits.head nonempty = 0 → digits = [0]) : digitsOf (number digits) = digits := by
  by_cases zero : digits.head nonempty = 0
  · rw [leading zero]
    rfl
  · have last (present : digits.reverse.map Fin.val ≠ []) :
        (digits.reverse.map Fin.val).getLast present ≠ 0 := by
      rw [List.getLast_map, List.getLast_reverse]
      exact fun same => zero (Fin.ext same)
    have small : ∀ digit ∈ digits.reverse.map Fin.val, digit < 10 := by
      intro digit member
      rcases List.mem_map.mp member with ⟨digit, -, rfl⟩
      exact digit.isLt
    have read := Nat.digits_ofDigits 10 (by decide) _ small fun present => last present
    have nonzero : number digits ≠ 0 := by
      intro none
      rw [number] at none
      rw [none, Nat.digits_zero] at read
      exact nonempty (List.reverse_eq_nil_iff.mp (List.map_eq_nil_iff.mp read.symm))
    have same := map_val_digitsOf nonzero
    rw [number, read, ← List.map_reverse, List.reverse_reverse] at same
    exact List.map_injective_iff.mpr Fin.val_injective same

/-- The canonical numeral of an integer. -/
def canonical (value : Int) : Numeral where
  sign := if value < 0 then .minus else .absent
  digits := digitsOf value.natAbs
  nonempty := digitsOf_ne_nil value.natAbs

@[simp] theorem value_canonical (value : Int) : (canonical value).value = value := by
  simp only [Numeral.value, canonical, number_digitsOf]
  by_cases negative : value < 0
  · rw [if_pos negative, if_pos rfl]
    omega
  · rw [if_neg negative, if_neg (by decide)]
    omega

/-- An integer is written as its canonical numeral. -/
theorem renderInt_eq_text (value : Int) : renderInt value = (canonical value).text := by
  rw [renderInt, toDigits_eq_spell, Numeral.text, Numeral.characters, canonical]
  by_cases negative : value < 0
  · rw [if_pos negative, if_pos negative, ← String.toList_inj, String.toList_append]
    simp only [String.toList_ofList]
    rfl
  · rw [if_neg negative, if_neg negative]
    rfl

theorem isCanonical_canonical (value : Int) : (canonical value).IsCanonical := by
  constructor
  · rw [value_canonical]
    rfl
  · intro zero
    change digitsOf value.natAbs = [0]
    by_cases none : value.natAbs = 0
    · rw [none]
      rfl
    · -- The most significant digit of a number is not zero.
      have digits := map_val_digitsOf none
      have last := Nat.getLast_digit_ne_zero 10 none
      have present : (digitsOf value.natAbs).map Fin.val ≠ [] := by
        rw [ne_eq, List.map_eq_nil_iff]
        exact digitsOf_ne_nil value.natAbs
      have head : ((digitsOf value.natAbs).map Fin.val).head present = 0 := by
        rw [List.head_map]
        exact congrArg Fin.val zero
      simp only [digits, List.head_reverse] at head
      exact absurd head last

/-- An integer has one canonical numeral. -/
theorem Numeral.IsCanonical.eq_canonical {numeral : Numeral} (canonical : numeral.IsCanonical) :
    numeral = Decimal.canonical numeral.value := by
  have size : numeral.value.natAbs = number numeral.digits := by
    rw [value]
    split <;> omega
  have digits := digitsOf_number numeral.nonempty canonical.leading
  have sign := canonical.sign
  rw [← size] at digits
  rcases numeral with ⟨_, _, _⟩
  simp only [Decimal.canonical, Numeral.mk.injEq]
  exact ⟨sign, digits.symm⟩

end Decimal

end ColumnVeil
