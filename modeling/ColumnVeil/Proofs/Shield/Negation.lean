import ColumnVeil.Proofs.Catalog.Integer
import ColumnVeil.Proofs.Shield.Renewal
import Mathlib.Algebra.Ring.Parity
import Mathlib.Tactic.NormNum

/-!
# Negated numbers

A number may stand under minus signs and in parentheses.  The literal that such an expression
is has a minus sign in front of the digits for every one in the expression, so it is the
number that the client wrote only where there is at most one: two do not cancel out.  The
columns of all types that are not coded store, digest and join the text of the literal.
-/

namespace ColumnVeil

open Sql

namespace Decimal

/-! ## Numbers and their texts -/

/-- The number that a decimal is. -/
def Scientific.amount (decimal : Scientific) : ℚ :=
  decimal.digits * 10 ^ decimal.exponent

/-- The number that characters without a sign spell; underscores only separate digits. -/
def unsignedAmount? (characters : List Char) : Option ℚ :=
  (Scientific.ofChars? (characters.filter (· != '_'))).map Scientific.amount

/-- The number that a text is, which may begin with one minus sign. -/
def amount? (text : String) : Option ℚ :=
  match text.toList with
  | '-' :: characters => (unsignedAmount? characters).map (- ·)
  | characters => unsignedAmount? characters

/-- No number without a sign begins with one. -/
theorem unsignedAmount?_minus (characters : List Char) :
    unsignedAmount? ('-' :: characters) = none :=
  rfl

theorem amount?_of_unsigned {text : String} {amount : ℚ}
    (unsigned : unsignedAmount? text.toList = some amount) : amount? text = some amount := by
  rw [amount?]
  split
  · rename_i characters spelled
    rw [spelled, unsignedAmount?_minus] at unsigned
    cases unsigned
  · exact unsigned

theorem amount?_minus (text : String) :
    amount? ("-" ++ text) = (unsignedAmount? text.toList).map (- ·) := by
  rw [amount?, String.toList_append]
  rfl

end Decimal

namespace Sql.Expr

/-- An expression is a number under some minus signs, and under any parentheses. -/
inductive Negated (digits : String) : Nat → Expr → Prop
  | number (long : Bool) : Negated digits 0 (value (.number digits long))
  | minus {count : Nat} {operand : Expr} :
      Negated digits count operand → Negated digits (count + 1) (unary .minus operand)
  | nested {count : Nat} {inner : Expr} :
      Negated digits count inner → Negated digits count (nested inner)

/-- The number that an expression of numbers, minus signs and parentheses denotes. -/
def amount? : Expr → Option ℚ
  | value (.number digits _) => Decimal.unsignedAmount? digits.toList
  | unary .minus operand => operand.amount?.map (- ·)
  | nested inner => inner.amount?
  | _ => none

/-- Minus signs in front of digits. -/
def signed (count : Nat) (digits : String) : String :=
  String.ofList (List.replicate count '-') ++ digits

theorem signed_zero (digits : String) : signed 0 digits = digits :=
  String.empty_append

theorem signed_succ (count : Nat) (digits : String) :
    signed (count + 1) digits = "-" ++ signed count digits := by
  rw [← String.toList_inj]
  simp only [signed, String.toList_append, String.toList_ofList, List.replicate_succ]
  rfl

namespace Negated

variable {digits : String} {count : Nat} {expr : Expr}

/-- Every minus sign of the expression is in the literal. -/
theorem literal? (negated : Negated digits count expr) :
    expr.literal? = some (.number (signed count digits)) := by
  induction negated with
  | number long =>
      rw [signed_zero]
      rfl
  | minus inner inductionHypothesis =>
      rw [Expr.literal?, inductionHypothesis, signed_succ]
  | nested inner inductionHypothesis =>
      rw [Expr.literal?, inductionHypothesis]

/-- The expression denotes the number or its opposite, by the parity of its minus signs. -/
theorem amount? {amount : ℚ} (negated : Negated digits count expr)
    (number : Decimal.unsignedAmount? digits.toList = some amount) :
    expr.amount? = some ((-1) ^ count * amount) := by
  induction negated with
  | number long =>
      rw [Expr.amount?, number, pow_zero, one_mul]
  | minus inner inductionHypothesis =>
      rw [Expr.amount?, inductionHypothesis, Option.map_some, pow_succ']
      simp only [neg_mul, one_mul]
  | nested inner inductionHypothesis =>
      rw [Expr.amount?, inductionHypothesis]

end Negated

/-- What a text with one minus sign at most begins with. -/
def sign (count : Nat) : String :=
  if Odd count then "-" else ""

/-- A text has the sign of its parity in front of the digits exactly if it has at most one
minus sign. -/
theorem signed_eq_iff (count : Nat) (digits : String) :
    signed count digits = sign count ++ digits ↔ count ≤ 1 := by
  match count with
  | 0 =>
      simp only [signed_zero, sign, Nat.not_odd_zero, if_false, String.empty_append, Nat.zero_le]
  | 1 =>
      simp only [signed_succ, signed_zero, sign, odd_one, if_true, le_refl]
  | count + 2 =>
      have short : (sign (count + 2)).length ≤ 1 := by
        rw [sign]
        split <;> decide
      refine iff_of_false (fun same => ?_) (by omega)
      have lengths := congrArg String.length same
      simp only [signed, String.length_append, String.length_ofList, List.length_replicate]
        at lengths
      omega

/-- The text of a literal is the number that the expression denotes, unless it has two minus
signs or more: such a text is no number. -/
theorem Negated.amount?_signed {digits : String} {count : Nat} {expr : Expr} {amount : ℚ}
    (negated : Negated digits count expr)
    (number : Decimal.unsignedAmount? digits.toList = some amount) :
    Decimal.amount? (signed count digits) = if count ≤ 1 then expr.amount? else none := by
  rw [negated.amount? number]
  match count with
  | 0 =>
      rw [signed_zero, Decimal.amount?_of_unsigned number, if_pos (by decide), pow_zero, one_mul]
  | 1 =>
      rw [signed_succ, signed_zero, Decimal.amount?_minus, number, if_pos le_rfl, pow_one,
        neg_one_mul, Option.map_some]
  | count + 2 =>
      rw [signed_succ, Decimal.amount?_minus, signed_succ, String.toList_append]
      exact (if_neg (by omega)).symm

end Sql.Expr

/-! ## The main result -/

theorem ColumnRule.plaintext_number {rule : ColumnRule} (uncoded : rule.dataType ∉ codedTypes)
    (text : String) : rule.plaintext (.number text) = .ok (some (Text.utf8 text)) := by
  simp only [plaintext, literalText, (encode?_of_uncoded uncoded).1]

/--
Numbers keep their value under one minus sign.  A number under any nesting of minus signs and
parentheses is a literal, with all of the minus signs in front of the digits: the text is an
optional minus sign followed by the digits, by the parity of their number, exactly if there is
at most one of them.  Exactly then the text is the number that the expression denotes; with
more of them it is no number at all.  In a column of a type that is not coded this text is
what is digested, joined and encrypted.
-/
theorem numbers_keep_their_value_under_one_minus {digits : String} {count : Nat} {expr : Expr}
    (negated : Expr.Negated digits count expr) :
    expr.literal? = some (.number (Expr.signed count digits)) ∧
    (Expr.signed count digits = Expr.sign count ++ digits ↔ count ≤ 1) ∧
    (∀ amount, Decimal.unsignedAmount? digits.toList = some amount →
      expr.amount? = some ((-1) ^ count * amount) ∧
      Decimal.amount? (Expr.signed count digits) = if count ≤ 1 then expr.amount? else none) ∧
    ∀ rule : ColumnRule, rule.dataType ∉ ColumnRule.codedTypes →
      ∃ plaintext, plaintext = Text.utf8 (Expr.signed count digits) ∧
        (∀ index, IndexShadow.value rule index (.number (Expr.signed count digits)) =
          .ok (.ofBytes (Crypto.Sha256.hmac index.key plaintext))) ∧
        (∀ catalog, JoinShadow.value catalog rule (.number (Expr.signed count digits)) =
          .ok (.ofBytes ((Crypto.Sha256.digest plaintext).take catalog.joinKeySize))) ∧
        ∀ key state,
          (Encryption.value rule key (.number (Expr.signed count digits))).run.run state =
          match Crypto.Cbc.encrypt key plaintext state.own.entropy with
          | .ok (payload, entropy) =>
              (.ok (.ofBytes payload), { state with own := { state.own with entropy } })
          | .error error => (.error (.cipher error), state) := by
  refine ⟨negated.literal?, Expr.signed_eq_iff count digits, fun amount number =>
    ⟨negated.amount? number, negated.amount?_signed number⟩, fun rule uncoded => ?_⟩
  have known := ColumnRule.plaintext_number uncoded (Expr.signed count digits)
  refine ⟨_, rfl, fun index => ?_, fun catalog => ?_, fun key state =>
    Encryption.run_value known state⟩
  · simp only [IndexShadow.value, known, bind, Except.bind, pure, Except.pure]
  · simp only [JoinShadow.value, known, bind, Except.bind, pure, Except.pure]

/-- The opposite of a number in parentheses is the number with one minus sign. -/
theorem oppositeOfFive_keeps_its_value :
    Expr.Negated "5" 1 (.unary .minus (.nested (.value (.number "5" false)))) ∧
      (Expr.unary .minus (.nested (.value (.number "5" false)))).literal? =
        some (.number "-5") ∧
      (ColumnRule.plain "area" DataType.numeric).plaintext (.number "-5") =
        .ok (some (Text.utf8 "-5")) := by
  have negated : Expr.Negated "5" 1 (.unary .minus (.nested (.value (.number "5" false)))) :=
    .minus (.nested (.number false))
  rcases numbers_keep_their_value_under_one_minus negated with ⟨literal, spelled, -, -⟩
  have text : Expr.signed 1 "5" = "-5" := spelled.mpr le_rfl
  rw [text] at literal
  exact ⟨negated, literal, ColumnRule.plaintext_number (by decide) "-5"⟩

/-- Two minus signs do not cancel out: the literal of the opposite of minus five is no number,
and it stands for other bytes than five. -/
theorem oppositeOfMinusFive_is_no_number :
    ∃ expr text, Expr.Negated "5" 2 expr ∧ expr.literal? = some (.number text) ∧
      text ≠ Expr.sign 2 ++ "5" ∧
      expr.amount? = some 5 ∧ Decimal.amount? text = none ∧
      (ColumnRule.plain "area" DataType.numeric).plaintext (.number text) ≠
        (ColumnRule.plain "area" DataType.numeric).plaintext (.number "5") := by
  have five : Decimal.unsignedAmount? "5".toList = some 5 := by
    have amount : Decimal.Scientific.amount ⟨5, 0⟩ = 5 := by
      norm_num [Decimal.Scientific.amount]
    exact congrArg some amount
  have negated : Expr.Negated "5" 2 (.unary .minus (.nested (.unary .minus
      (.value (.number "5" false))))) := .minus (.nested (.minus (.number false)))
  refine ⟨_, "--5", negated, rfl, by decide, ?_, rfl, ?_⟩
  · rw [negated.amount? five]
    norm_num
  · rw [ColumnRule.plaintext_number (by decide), ColumnRule.plaintext_number (by decide)]
    intro same
    exact absurd (Text.utf8_injective (Option.some.inj (Except.ok.inj same))) (by decide)

end ColumnVeil
