import Mathlib.Tactic.Tauto
import ColumnVeil.Proofs.Sql.Zeroless
import ColumnVeil.Sql.Printer

/-!
# Printing without a zero

What is printed of a construct holds no zero just if none of its parts does: the printer adds
only words, marks and escapes that are none.  So a construct counts as a thing without a zero if
its print is, and the lemmas say for every constructor which parts that concerns.
-/

namespace ColumnVeil

open Sql

namespace Sql

section Marks

theorem zeroless_joinWith (separator : String) (plain : Zeroless separator)
    {texts : List String} : Zeroless (joinWith separator texts) ↔ Zeroless texts := by
  cases texts with
  | nil => simp +decide [joinWith]
  | cons text texts => simp [joinWith, zeroless_foldl_append plain]

@[simp]
theorem zeroless_commaSeparated {texts : List String} :
    Zeroless (commaSeparated texts) ↔ Zeroless texts :=
  zeroless_joinWith ", " (by simp +decide)

/-- Marks are doubled where there are marks, so no other character is added. -/
theorem mem_escapeMark {mark previous character : Char} {characters : List Char} :
    character ∈ escapeMark mark previous characters ↔ character ∈ characters := by
  fun_induction escapeMark mark previous characters with
  | case1 => rfl
  | case2 => simp_all
  | case3 => simp_all
  | case4 => simp_all
  | case5 => simp_all
  | case6 => simp_all
  | case7 => simp_all

@[simp]
theorem zeroless_quotedWith {mark : Char} {text : String} :
    Zeroless (quotedWith mark text) ↔ Zeroless mark ∧ Zeroless text := by
  have same : Zeroless (escapeMark mark (Char.ofNat 0) text.toList) ↔ Zeroless text := by
    rw [← zeroless_toList]
    simp only [Zeroless, mem_escapeMark]
  simp only [quotedWith, List.cons_append, zeroless_ofList, zeroless_cons, zeroless_append, same,
    zeroless_nil, and_true]
  tauto

theorem zeroless_escapeControl {character : Char} :
    Zeroless (escapeControl character) ↔ Zeroless character := by
  unfold escapeControl
  split <;> simp +decide

theorem digit_of_mem_toDigits {base number : Nat} (positive : 1 < base) {character : Char}
    (member : character ∈ Nat.toDigits base number) :
    ∃ digit < base, character = Nat.digitChar digit := by
  induction number using Nat.strongRecOn with
  | ind number inductionHypothesis =>
      rw [Nat.toDigits_eq_if positive] at member
      split at member
      · exact ⟨number, ‹_›, List.mem_singleton.mp member⟩
      · rcases List.mem_append.mp member with earlier | last
        · exact inductionHypothesis _ (Nat.div_lt_self (by omega) positive) earlier
        · exact ⟨number % base, Nat.mod_lt _ (by omega), List.mem_singleton.mp last⟩

theorem zeroless_capitalHex {width value : Nat} : Zeroless (capitalHex width value) := by
  simp only [capitalHex, zeroless_append, zeroless_map]
  constructor
  · intro character member
    rw [List.eq_of_mem_replicate member]
    decide
  · intro character member
    obtain ⟨digit, small, rfl⟩ := digit_of_mem_toDigits (by decide) member
    clear member
    revert digit
    decide

theorem zeroless_escapeUnicode {character : Char} :
    Zeroless (escapeUnicode character) ↔ Zeroless character := by
  unfold escapeUnicode
  split
  · simp +decide [*]
  · split
    · simp +decide [*]
    · split
      · simp
      · have other : Zeroless character := by
          rintro rfl
          contradiction
        split <;> simp +decide [zeroless_capitalHex, other]

theorem zeroless_flatMap {characters : List Char} {f : Char → List Char}
    (same : ∀ {character}, Zeroless (f character) ↔ Zeroless character) :
    Zeroless (characters.flatMap f) ↔ Zeroless characters := by
  induction characters with
  | nil => simp
  | cons character characters inductionHypothesis => simp [inductionHypothesis, same]

end Marks

section Constants

instance : Textual Ident where
  Zeroless ident := Zeroless ident.text

instance : Textual Value where
  Zeroless value := Zeroless value.text

@[simp]
theorem zeroless_identText {ident : Ident} : Zeroless ident.text ↔ Zeroless ident :=
  Iff.rfl

@[simp]
theorem zeroless_ident {value : String} {quote : Option Char} :
    Zeroless (⟨value, quote⟩ : Ident) ↔ Zeroless value ∧ Zeroless quote := by
  rw [← zeroless_identText, Ident.text]
  split <;> simp_all [and_comm]

@[simp]
theorem zeroless_nameText {name : Name} : Zeroless (Name.text name) ↔ Zeroless name := by
  simp [Name.text, zeroless_joinWith "." (by simp +decide)]

@[simp]
theorem zeroless_valueText {value : Value} : Zeroless value.text ↔ Zeroless value :=
  Iff.rfl

/-- The text that a constant is made of. -/
def Value.content : Value → String
  | null => ""
  | boolean _ => ""
  | number digits _ => digits
  | string text => text
  | marked text => text
  | escapedString text => text
  | unicodeString text => text
  | nationalString text => text
  | hexString text => text
  | bitString text => text
  | markedBitString text => text
  | dollarString label text => label.getD "" ++ text
  | placeholder text => text

theorem zeroless_content {value : Value} : Zeroless value ↔ Zeroless value.content := by
  rw [← zeroless_valueText]
  cases value with
  | boolean value => cases value <;> simp +decide [Value.content, Value.text]
  | number digits long => cases long <;> simp +decide [Value.content, Value.text]
  | dollarString label text =>
      simp +decide [Value.content, Value.text, Token.dollarQuoted]
      tauto
  | _ =>
      simp +decide [Value.content, Value.text, zeroless_flatMap, zeroless_escapeControl,
        zeroless_escapeUnicode]

instance : Textual BinaryOperator where
  Zeroless operator := Zeroless operator.text

@[simp]
theorem zeroless_operatorText {operator : BinaryOperator} :
    Zeroless operator.text ↔ Zeroless operator :=
  Iff.rfl

instance : Textual UnaryOperator where
  Zeroless operator := Zeroless (operator.apply "")

@[simp]
theorem zeroless_apply {operator : UnaryOperator} {operand : String} :
    Zeroless (operator.apply operand) ↔ Zeroless operator ∧ Zeroless operand := by
  have same : Zeroless operator ↔ Zeroless (operator.apply "") := Iff.rfl
  rw [same]
  cases operator with
  | sign symbol apart => cases apart <;> simp +decide [UnaryOperator.apply]
  | _ => simp +decide [UnaryOperator.apply]

@[simp]
theorem zeroless_negation {negated : Bool} : Zeroless (negation negated) := by
  cases negated <;> simp +decide [negation]

instance : Textual TableAlias where
  Zeroless aliasName := Zeroless aliasName.name ∧ Zeroless aliasName.columns

@[simp]
theorem zeroless_alias {name : Ident} {columns : String} :
    Zeroless (⟨name, columns⟩ : TableAlias) ↔ Zeroless name ∧ Zeroless columns :=
  Iff.rfl

@[simp]
theorem zeroless_aliasText {aliasName : TableAlias} :
    Zeroless aliasName.text ↔ Zeroless aliasName := by
  simp [TableAlias.text]
  rfl

@[simp]
theorem zeroless_suffix {aliasName : Option TableAlias} :
    Zeroless (TableAlias.suffix aliasName) ↔ Zeroless aliasName := by
  cases aliasName <;> simp +decide [TableAlias.suffix]

end Constants

section Trees

instance : Textual Expr where
  Zeroless expr := Zeroless expr.text

instance : Textual Part where
  Zeroless part := Zeroless part.text

instance : Textual Query where
  Zeroless query := Zeroless query.text

instance : Textual Cte where
  Zeroless cte := Zeroless cte.text

instance : Textual OrderItem where
  Zeroless item := Zeroless item.text

instance : Textual QueryBody where
  Zeroless body := Zeroless body.text

instance : Textual Select where
  Zeroless select := Zeroless select.text

instance : Textual SelectItem where
  Zeroless item := Zeroless item.text

instance : Textual TableWithJoins where
  Zeroless tables := Zeroless tables.text

instance : Textual Join where
  Zeroless join := Zeroless join.text

instance : Textual JoinConstraint where
  Zeroless constraint := Zeroless constraint.text

instance : Textual TableFactor where
  Zeroless factor := Zeroless factor.text

@[simp]
theorem zeroless_exprText {expr : Expr} : Zeroless expr.text ↔ Zeroless expr :=
  Iff.rfl

@[simp]
theorem zeroless_partText {part : Part} : Zeroless part.text ↔ Zeroless part :=
  Iff.rfl

@[simp]
theorem zeroless_queryText {query : Query} : Zeroless query.text ↔ Zeroless query :=
  Iff.rfl

@[simp]
theorem zeroless_cteText {cte : Cte} : Zeroless cte.text ↔ Zeroless cte :=
  Iff.rfl

@[simp]
theorem zeroless_orderText {item : OrderItem} : Zeroless item.text ↔ Zeroless item :=
  Iff.rfl

@[simp]
theorem zeroless_bodyText {body : QueryBody} : Zeroless body.text ↔ Zeroless body :=
  Iff.rfl

@[simp]
theorem zeroless_selectText {select : Select} : Zeroless select.text ↔ Zeroless select :=
  Iff.rfl

@[simp]
theorem zeroless_itemText {item : SelectItem} : Zeroless item.text ↔ Zeroless item :=
  Iff.rfl

@[simp]
theorem zeroless_tablesText {tables : TableWithJoins} : Zeroless tables.text ↔ Zeroless tables :=
  Iff.rfl

@[simp]
theorem zeroless_joinText {join : Join} : Zeroless join.text ↔ Zeroless join :=
  Iff.rfl

@[simp]
theorem zeroless_constraintText {constraint : JoinConstraint} :
    Zeroless constraint.text ↔ Zeroless constraint :=
  Iff.rfl

@[simp]
theorem zeroless_factorText {factor : TableFactor} : Zeroless factor.text ↔ Zeroless factor :=
  Iff.rfl

/-! ### Several constructs in a row -/

@[simp]
theorem zeroless_exprTexts {items : List Expr} : Zeroless (Expr.texts items) ↔ Zeroless items := by
  induction items with
  | nil => simp +decide [Expr.texts]
  | cons item items inductionHypothesis => simp [Expr.texts, inductionHypothesis]

@[simp]
theorem zeroless_partTexts {parts : List Part} : Zeroless (Part.texts parts) ↔ Zeroless parts := by
  induction parts with
  | nil => simp +decide [Part.texts]
  | cons part parts inductionHypothesis => simp [Part.texts, inductionHypothesis]

@[simp]
theorem zeroless_cteTexts {ctes : List Cte} : Zeroless (Cte.texts ctes) ↔ Zeroless ctes := by
  induction ctes with
  | nil => simp +decide [Cte.texts]
  | cons cte ctes inductionHypothesis => simp [Cte.texts, inductionHypothesis]

@[simp]
theorem zeroless_orderTexts {order : List OrderItem} :
    Zeroless (OrderItem.texts order) ↔ Zeroless order := by
  induction order with
  | nil => simp +decide [OrderItem.texts]
  | cons item order inductionHypothesis => simp [OrderItem.texts, inductionHypothesis]

@[simp]
theorem zeroless_itemTexts {items : List SelectItem} :
    Zeroless (SelectItem.texts items) ↔ Zeroless items := by
  induction items with
  | nil => simp +decide [SelectItem.texts]
  | cons item items inductionHypothesis => simp [SelectItem.texts, inductionHypothesis]

@[simp]
theorem zeroless_tablesTexts {relations : List TableWithJoins} :
    Zeroless (TableWithJoins.texts relations) ↔ Zeroless relations := by
  induction relations with
  | nil => simp +decide [TableWithJoins.texts]
  | cons tables relations inductionHypothesis => simp [TableWithJoins.texts, inductionHypothesis]

@[simp]
theorem zeroless_joinTexts {joins : List Join} : Zeroless (Join.texts joins) ↔ Zeroless joins := by
  induction joins with
  | nil => simp +decide [Join.texts]
  | cons join joins inductionHypothesis => simp [Join.texts, inductionHypothesis]

theorem zeroless_rowTexts {lead : String} (plain : Zeroless lead) {rows : List (List Expr)} :
    Zeroless (QueryBody.rowTexts lead rows) ↔ Zeroless rows := by
  induction rows with
  | nil => simp [QueryBody.rowTexts]
  | cons row rows inductionHypothesis =>
      simp +decide [QueryBody.rowTexts, inductionHypothesis, plain]

/-! ### Constructs by their constructors -/

@[simp]
theorem zeroless_identifier {ident : Ident} :
    Zeroless (Expr.identifier ident) ↔ Zeroless ident := by
  rfl

@[simp]
theorem zeroless_compound {parts : List Ident} :
    Zeroless (Expr.compound parts) ↔ Zeroless parts := by
  change Zeroless (Name.text parts) ↔ _
  exact zeroless_nameText

@[simp]
theorem zeroless_constant {value : Value} : Zeroless (Expr.value value) ↔ Zeroless value := by
  rfl

@[simp]
theorem zeroless_binary {left right : Expr} {operator : BinaryOperator} :
    Zeroless (Expr.binary left operator right) ↔
      Zeroless left ∧ Zeroless operator ∧ Zeroless right := by
  change Zeroless (left.text ++ " " ++ operator.text ++ " " ++ right.text) ↔ _
  simp +decide [and_assoc]

@[simp]
theorem zeroless_unary {operand : Expr} {operator : UnaryOperator} :
    Zeroless (Expr.unary operator operand) ↔ Zeroless operator ∧ Zeroless operand := by
  change Zeroless (operator.apply operand.text) ↔ _
  simp

@[simp]
theorem zeroless_nested {inner : Expr} : Zeroless (Expr.nested inner) ↔ Zeroless inner := by
  change Zeroless ("(" ++ inner.text ++ ")") ↔ _
  simp +decide

@[simp]
theorem zeroless_nullTest {operand : Expr} {negated : Bool} :
    Zeroless (Expr.nullTest operand negated) ↔ Zeroless operand := by
  change Zeroless (operand.text ++ " IS " ++ negation negated ++ "NULL") ↔ _
  simp +decide

@[simp]
theorem zeroless_inList {operand : Expr} {negated : Bool} {items : List Expr} :
    Zeroless (Expr.inList operand negated items) ↔ Zeroless operand ∧ Zeroless items := by
  change Zeroless (operand.text ++ " " ++ negation negated ++ "IN (" ++
    commaSeparated (Expr.texts items) ++ ")") ↔ _
  simp +decide

@[simp]
theorem zeroless_inQuery {operand : Expr} {negated : Bool} {body : QueryBody} :
    Zeroless (Expr.inQuery operand negated body) ↔ Zeroless operand ∧ Zeroless body := by
  change Zeroless (operand.text ++ " " ++ negation negated ++ "IN (" ++ body.text ++ ")") ↔ _
  simp +decide

@[simp]
theorem zeroless_between {operand low high : Expr} {negated : Bool} :
    Zeroless (Expr.between operand negated low high) ↔
      Zeroless operand ∧ Zeroless low ∧ Zeroless high := by
  change Zeroless (operand.text ++ " " ++ negation negated ++ "BETWEEN " ++ low.text ++ " AND " ++
    high.text) ↔ _
  simp +decide [and_assoc]

@[simp]
theorem zeroless_like {operand pattern : Expr} {negated : Bool} {word : String}
    {escape : Option String} :
    
    Zeroless (Expr.like operand negated word pattern escape) ↔
      Zeroless operand ∧ Zeroless word ∧ Zeroless pattern ∧ Zeroless escape := by
  cases escape with
  | none =>
      change Zeroless (operand.text ++ " " ++ negation negated ++ word ++ " " ++ pattern.text ++
        "") ↔ _
      simp +decide [and_assoc]
  | some character =>
      change Zeroless (operand.text ++ " " ++ negation negated ++ word ++ " " ++ pattern.text ++
        (" ESCAPE '" ++ character ++ "'")) ↔ _
      simp +decide [and_assoc]

@[simp]
theorem zeroless_array {named : Bool} {elements : List Expr} :
    Zeroless (Expr.array named elements) ↔ Zeroless elements := by
  change Zeroless
    ((if named then "ARRAY[" else "[") ++ commaSeparated (Expr.texts elements) ++ "]") ↔ _
  simp +decide

@[simp]
theorem zeroless_subquery {query : Query} : Zeroless (Expr.subquery query) ↔ Zeroless query := by
  change Zeroless ("(" ++ query.text ++ ")") ↔ _
  simp +decide

@[simp]
theorem zeroless_existence {negated : Bool} {query : Query} :
    Zeroless (Expr.existence negated query) ↔ Zeroless query := by
  change Zeroless (negation negated ++ "EXISTS (" ++ query.text ++ ")") ↔ _
  simp +decide

@[simp]
theorem zeroless_call {name : Name} {opening late closing : List Part} :
    Zeroless (Expr.call name opening late closing) ↔
      Zeroless name ∧ Zeroless opening ∧ Zeroless late ∧ Zeroless closing := by
  change Zeroless
    (Name.text name ++ Part.texts opening ++ Part.texts late ++ Part.texts closing) ↔ _
  simp [and_assoc]

@[simp]
theorem zeroless_form {parts : List Part} : Zeroless (Expr.form parts) ↔ Zeroless parts := by
  exact zeroless_partTexts

@[simp]
theorem zeroless_words {text : String} : Zeroless (Part.words text) ↔ Zeroless text := by
  rfl

@[simp]
theorem zeroless_operand {expr : Expr} : Zeroless (Part.expr expr) ↔ Zeroless expr := by
  rfl

@[simp]
theorem zeroless_queryPart {query : Query} : Zeroless (Part.query query) ↔ Zeroless query := by
  rfl

@[simp]
theorem zeroless_tablesPart {tables : TableWithJoins} :
    Zeroless (Part.tables tables) ↔ Zeroless tables := by
  rfl

@[simp]
theorem zeroless_relation {name : Name} : Zeroless (Part.relation name) ↔ Zeroless name := by
  exact zeroless_nameText

theorem Query.text_mk (recursive : Bool) (ctes : List Cte) (body : QueryBody)
    (order : List OrderItem) (tail : List Part) :
    (Query.mk recursive ctes body order tail).text =
      (match ctes with
      | [] => ""
      | ctes => "WITH " ++ (if recursive then "RECURSIVE " else "") ++
          commaSeparated (Cte.texts ctes) ++ " ") ++ body.text ++
      (match order with
      | [] => ""
      | order => " ORDER BY " ++ commaSeparated (OrderItem.texts order)) ++ Part.texts tail := by
  cases ctes <;> cases order <;> rfl

@[simp]
theorem zeroless_query {recursive : Bool} {ctes : List Cte} {body : QueryBody}
    {order : List OrderItem} {tail : List Part} :
    Zeroless (Query.mk recursive ctes body order tail) ↔
      Zeroless ctes ∧ Zeroless body ∧ Zeroless order ∧ Zeroless tail := by
  have withs : Zeroless (match ctes with
      | [] => ""
      | ctes => "WITH " ++ (if recursive then "RECURSIVE " else "") ++
          commaSeparated (Cte.texts ctes) ++ " ") ↔ Zeroless ctes := by
    cases ctes <;> simp +decide
  have ordered : Zeroless (match order with
      | [] => ""
      | order => " ORDER BY " ++ commaSeparated (OrderItem.texts order)) ↔ Zeroless order := by
    cases order <;> simp +decide
  rw [← zeroless_queryText, Query.text_mk]
  simp only [zeroless_append_text, zeroless_bodyText, zeroless_partTexts, withs, ordered, and_assoc]

@[simp]
theorem zeroless_cte {aliasName : TableAlias} {materialized : String} {query : Query}
    {origin : Option Ident} :
    Zeroless (Cte.mk aliasName materialized query origin) ↔
      Zeroless aliasName ∧ Zeroless materialized ∧ Zeroless query ∧ Zeroless origin := by
  cases origin with
  | none =>
      change Zeroless (aliasName.text ++ " AS " ++ materialized ++ "(" ++ query.text ++ ")" ++
        "") ↔ _
      simp +decide [and_assoc]
  | some ident =>
      change Zeroless (aliasName.text ++ " AS " ++ materialized ++ "(" ++ query.text ++ ")" ++
        (" FROM " ++ ident.text)) ↔ _
      simp +decide [and_assoc]

@[simp]
theorem zeroless_orderItem {expr : Expr} {direction : String} :
    Zeroless (OrderItem.mk expr direction) ↔ Zeroless expr ∧ Zeroless direction :=
  zeroless_append_text

@[simp]
theorem zeroless_selection {select : Select} :
    Zeroless (QueryBody.select select) ↔ Zeroless select := by
  rfl

@[simp]
theorem zeroless_parenthesized {query : Query} :
    Zeroless (QueryBody.parenthesized query) ↔ Zeroless query := by
  change Zeroless ("(" ++ query.text ++ ")") ↔ _
  simp +decide

@[simp]
theorem zeroless_combination {left right : QueryBody} {operator : String} :
    Zeroless (QueryBody.combination left operator right) ↔
      Zeroless left ∧ Zeroless operator ∧ Zeroless right := by
  change Zeroless (left.text ++ " " ++ operator ++ " " ++ right.text) ↔ _
  simp +decide [and_assoc]

@[simp]
theorem zeroless_values {explicitRow : Bool} {rows : List (List Expr)} :
    Zeroless (QueryBody.values explicitRow rows) ↔ Zeroless rows := by
  change Zeroless ("VALUES " ++
    commaSeparated (QueryBody.rowTexts (if explicitRow then "ROW" else "") rows)) ↔ _
  cases explicitRow <;> simp +decide [zeroless_rowTexts]

@[simp]
theorem zeroless_wholeTable {name : String} : Zeroless (QueryBody.table name) ↔ Zeroless name := by
  change Zeroless ("TABLE " ++ name) ↔ _
  simp +decide

@[simp]
theorem zeroless_change {parts : List Part} :
    Zeroless (QueryBody.change parts) ↔ Zeroless parts := by
  exact zeroless_partTexts

theorem Select.text_mk (lead : List Part) (projection : List SelectItem) (target : String)
    (relations : List TableWithJoins) (views : List Part) (condition : Option Expr)
    (groups : List Expr) (grouping : List Part) (having : Option Expr) (tail : List Part) :
    (Select.mk lead projection target relations views condition groups grouping having tail).text =
      "SELECT" ++ Part.texts lead ++
      (match projection with
      | [] => ""
      | projection => " " ++ commaSeparated (SelectItem.texts projection)) ++ target ++
      (match relations with
      | [] => ""
      | relations => " FROM " ++ commaSeparated (TableWithJoins.texts relations)) ++
      Part.texts views ++
      (match condition with
      | some condition => " WHERE " ++ condition.text
      | none => "") ++
      (match groups with
      | [] => ""
      | groups => " GROUP BY " ++ commaSeparated (Expr.texts groups)) ++ Part.texts grouping ++
      (match having with
      | some having => " HAVING " ++ having.text
      | none => "") ++ Part.texts tail := by
  cases projection <;> cases relations <;> cases condition <;> cases groups <;> cases having <;>
    rfl

@[simp]
theorem zeroless_select {lead views grouping tail : List Part} {projection : List SelectItem}
    {target : String} {relations : List TableWithJoins} {condition having : Option Expr}
    {groups : List Expr} :
    Zeroless (Select.mk lead projection target relations views condition groups grouping having
        tail) ↔
      Zeroless lead ∧ Zeroless projection ∧ Zeroless target ∧ Zeroless relations ∧
        Zeroless views ∧ Zeroless condition ∧ Zeroless groups ∧ Zeroless grouping ∧
        Zeroless having ∧ Zeroless tail := by
  have projected : Zeroless (match projection with
      | [] => ""
      | projection => " " ++ commaSeparated (SelectItem.texts projection)) ↔
      Zeroless projection := by
    cases projection <;> simp +decide
  have drawn : Zeroless (match relations with
      | [] => ""
      | relations => " FROM " ++ commaSeparated (TableWithJoins.texts relations)) ↔
      Zeroless relations := by
    cases relations <;> simp +decide
  have filtered : Zeroless (match condition with
      | some condition => " WHERE " ++ condition.text
      | none => "") ↔ Zeroless condition := by
    cases condition <;> simp +decide
  have grouped : Zeroless (match groups with
      | [] => ""
      | groups => " GROUP BY " ++ commaSeparated (Expr.texts groups)) ↔ Zeroless groups := by
    cases groups <;> simp +decide
  have kept : Zeroless (match having with
      | some having => " HAVING " ++ having.text
      | none => "") ↔ Zeroless having := by
    cases having <;> simp +decide
  rw [← zeroless_selectText, Select.text_mk]
  simp +decide only [zeroless_append_text, zeroless_partTexts, projected, drawn, filtered, grouped,
    kept, zeroless_of_isPlain, true_and, and_assoc]

@[simp]
theorem zeroless_item {expr : Expr} : Zeroless (SelectItem.expr expr) ↔ Zeroless expr := by
  rfl

@[simp]
theorem zeroless_aliased {expr : Expr} {aliasName : Ident} :
    Zeroless (SelectItem.aliased expr aliasName) ↔ Zeroless expr ∧ Zeroless aliasName := by
  change Zeroless (expr.text ++ " AS " ++ aliasName.text) ↔ _
  simp +decide

@[simp]
theorem zeroless_wildcard {qualifier : Name} :
    Zeroless (SelectItem.wildcard qualifier) ↔ Zeroless qualifier := by
  cases qualifier with
  | nil => exact iff_of_true (by change Zeroless "*"; simp +decide) zeroless_nil
  | cons ident qualifier =>
      change Zeroless (Name.text (ident :: qualifier) ++ ".*") ↔ _
      simp +decide

@[simp]
theorem zeroless_joined {relation : TableFactor} {joins : List Join} :
    Zeroless (TableWithJoins.mk relation joins) ↔ Zeroless relation ∧ Zeroless joins := by
  change Zeroless (relation.text ++ Join.texts joins) ↔ _
  simp

@[simp]
theorem zeroless_joining {words : String} {relation : TableFactor} {matching : List Part}
    {constraint : JoinConstraint} :
    Zeroless (Join.mk words relation matching constraint) ↔
      Zeroless words ∧ Zeroless relation ∧ Zeroless matching ∧ Zeroless constraint := by
  change Zeroless
    (" " ++ words ++ " " ++ relation.text ++ Part.texts matching ++ constraint.text) ↔ _
  simp +decide [and_assoc]

@[simp]
theorem zeroless_on {condition : Expr} :
    Zeroless (JoinConstraint.on condition) ↔ Zeroless condition := by
  change Zeroless (" ON " ++ condition.text) ↔ _
  simp +decide

@[simp]
theorem zeroless_sharing {columns : List Name} :
    Zeroless (JoinConstraint.sharing columns) ↔ Zeroless columns := by
  change Zeroless (" USING(" ++ commaSeparated (columns.map Name.text) ++ ")") ↔ _
  simp +decide

@[simp]
theorem zeroless_unconstrained : Zeroless JoinConstraint.none := by
  change Zeroless ""
  simp +decide

@[simp]
theorem zeroless_natural : Zeroless JoinConstraint.natural := by
  change Zeroless ""
  simp +decide

@[simp]
theorem zeroless_table {name : Name} {arguments tail : List Part} {aliasName : Option TableAlias} :
    Zeroless (TableFactor.table name arguments aliasName tail) ↔
      Zeroless name ∧ Zeroless arguments ∧ Zeroless aliasName ∧ Zeroless tail := by
  change Zeroless (Name.text name ++ Part.texts arguments ++ TableAlias.suffix aliasName ++
    Part.texts tail) ↔ _
  simp [and_assoc]

@[simp]
theorem zeroless_derived {isLateral : Bool} {query : Query} {aliasName : Option TableAlias} :
    Zeroless (TableFactor.derived isLateral query aliasName) ↔
      Zeroless query ∧ Zeroless aliasName := by
  change Zeroless ((if isLateral then "LATERAL " else "") ++ "(" ++ query.text ++ ")" ++
    TableAlias.suffix aliasName) ↔ _
  simp +decide

@[simp]
theorem zeroless_nestedJoin {inner : TableWithJoins} {aliasName : Option TableAlias} :
    Zeroless (TableFactor.nestedJoin inner aliasName) ↔ Zeroless inner ∧ Zeroless aliasName := by
  change Zeroless ("(" ++ inner.text ++ ")" ++ TableAlias.suffix aliasName) ↔ _
  simp +decide

@[simp]
theorem zeroless_function {parts : List Part} {aliasName : Option TableAlias} {tail : String} :
    Zeroless (TableFactor.function parts aliasName tail) ↔
      Zeroless parts ∧ Zeroless aliasName ∧ Zeroless tail := by
  change Zeroless (Part.texts parts ++ TableAlias.suffix aliasName ++ tail) ↔ _
  simp [and_assoc]

end Trees

/-! ### Statements -/

section Statements

@[simp]
theorem zeroless_commas {lists : List (List Part)} :
    Zeroless (Part.commas lists) ↔ Zeroless lists := by
  fun_induction Part.commas lists with
  | case1 => simp
  | case2 parts => simp
  | case3 parts rest _ inductionHypothesis => simp +decide [inductionHypothesis]

@[simp]
theorem zeroless_itemParts {item : SelectItem} : Zeroless item.parts ↔ Zeroless item := by
  cases item <;> simp +decide [SelectItem.parts]

@[simp]
theorem zeroless_returningParts {returning : Option (List SelectItem)} :
    Zeroless (returningParts returning) ↔ Zeroless returning := by
  cases returning <;> simp +decide [returningParts]

@[simp]
theorem zeroless_conditionParts {condition : Option Expr} :
    Zeroless (conditionParts condition) ↔ Zeroless condition := by
  cases condition <;> simp +decide [conditionParts]

@[simp]
theorem zeroless_relationParts {keyword : String} {relations : List TableWithJoins} :
    Zeroless (relationParts keyword relations) ↔ Zeroless keyword ∧ Zeroless relations := by
  simp [relationParts]

instance : Textual AssignmentTarget where
  Zeroless target := Zeroless target.text

@[simp]
theorem zeroless_targetText {target : AssignmentTarget} :
    Zeroless target.text ↔ Zeroless target :=
  Iff.rfl

@[simp]
theorem zeroless_column {name : Name} :
    Zeroless (AssignmentTarget.column name) ↔ Zeroless name := by
  rw [← zeroless_targetText]
  simp [AssignmentTarget.text]

@[simp]
theorem zeroless_tuple {names : List Name} :
    Zeroless (AssignmentTarget.tuple names) ↔ Zeroless names := by
  rw [← zeroless_targetText]
  simp +decide [AssignmentTarget.text]

instance : Textual Assignment where
  Zeroless assignment := Zeroless assignment.target ∧ Zeroless assignment.value

@[simp]
theorem zeroless_assignment {target : AssignmentTarget} {value : Expr} :
    Zeroless (⟨target, value⟩ : Assignment) ↔ Zeroless target ∧ Zeroless value :=
  Iff.rfl

@[simp]
theorem zeroless_assignmentParts {assignment : Assignment} :
    Zeroless assignment.parts ↔ Zeroless assignment := by
  cases assignment
  simp +decide [Assignment.parts]

instance : Textual ConflictRule where
  Zeroless rule := Zeroless rule.parts

@[simp]
theorem zeroless_conflictParts {rule : ConflictRule} : Zeroless rule.parts ↔ Zeroless rule :=
  Iff.rfl

@[simp]
theorem zeroless_unruled : Zeroless ConflictRule.none :=
  zeroless_nil

@[simp]
theorem zeroless_ruleWords {text : String} :
    Zeroless (ConflictRule.words text) ↔ Zeroless text := by
  rw [← zeroless_conflictParts]
  simp [ConflictRule.parts]

@[simp]
theorem zeroless_ruleAssign {words : String} {assignments : List Assignment}
    {condition : Option Expr} :
    Zeroless (ConflictRule.assign words assignments condition) ↔
      Zeroless words ∧ Zeroless assignments ∧ Zeroless condition := by
  rw [← zeroless_conflictParts]
  simp [ConflictRule.parts]

instance : Textual Insert where
  Zeroless insert := Zeroless insert.words ∧ Zeroless insert.table ∧ Zeroless insert.aliasName ∧
    Zeroless insert.columns ∧ Zeroless insert.partition ∧ Zeroless insert.source ∧
    Zeroless insert.conflict ∧ Zeroless insert.returning

@[simp]
theorem zeroless_insertParts {insert : Insert} : Zeroless insert.parts ↔ Zeroless insert := by
  obtain ⟨words, table, aliasName, columns, partition, source, conflict, returning⟩ := insert
  change _ ↔ Zeroless words ∧ Zeroless table ∧ Zeroless aliasName ∧ Zeroless columns ∧
    Zeroless partition ∧ Zeroless source ∧ Zeroless conflict ∧ Zeroless returning
  cases aliasName <;> cases columns <;> cases source <;>
    simp +decide [Insert.parts, and_assoc]

instance : Textual Update where
  Zeroless update := Zeroless update.words ∧ Zeroless update.table ∧ Zeroless update.assignments ∧
    Zeroless update.relations ∧ Zeroless update.condition ∧ Zeroless update.returning

@[simp]
theorem zeroless_updateParts {update : Update} : Zeroless update.parts ↔ Zeroless update := by
  obtain ⟨words, table, assignments, relations, condition, returning⟩ := update
  change _ ↔ Zeroless words ∧ Zeroless table ∧ Zeroless assignments ∧ Zeroless relations ∧
    Zeroless condition ∧ Zeroless returning
  rcases relations with _ | ⟨early, relations⟩
  · simp +decide [Update.parts]
  · cases early
    · simp +decide [Update.parts]
    · simp +decide [Update.parts]
      tauto

instance : Textual Delete where
  Zeroless delete := Zeroless delete.words ∧ Zeroless delete.relations ∧ Zeroless delete.further ∧
    Zeroless delete.condition ∧ Zeroless delete.returning ∧ Zeroless delete.tail

@[simp]
theorem zeroless_deleteParts {delete : Delete} : Zeroless delete.parts ↔ Zeroless delete := by
  obtain ⟨words, relations, further, condition, returning, tail⟩ := delete
  change _ ↔ Zeroless words ∧ Zeroless relations ∧ Zeroless further ∧ Zeroless condition ∧
    Zeroless returning ∧ Zeroless tail
  cases further <;> simp +decide [Delete.parts, and_assoc]

instance : Textual Statement where
  Zeroless statement := Zeroless statement.parts

@[simp]
theorem zeroless_statementParts {statement : Statement} :
    Zeroless statement.parts ↔ Zeroless statement :=
  Iff.rfl

@[simp]
theorem zeroless_queryStatement {query : Query} :
    Zeroless (Statement.query query) ↔ Zeroless query := by
  rw [← zeroless_statementParts]
  simp [Statement.parts]

@[simp]
theorem zeroless_insert {insert : Insert} :
    Zeroless (Statement.insert insert) ↔ Zeroless insert :=
  zeroless_insertParts

@[simp]
theorem zeroless_update {update : Update} :
    Zeroless (Statement.update update) ↔ Zeroless update :=
  zeroless_updateParts

@[simp]
theorem zeroless_delete {delete : Delete} :
    Zeroless (Statement.delete delete) ↔ Zeroless delete :=
  zeroless_deleteParts

@[simp]
theorem zeroless_explain {words : String} {statement : Statement} :
    Zeroless (Statement.explain words statement) ↔ Zeroless words ∧ Zeroless statement :=
  zeroless_cons.trans (and_congr zeroless_words zeroless_statementParts)

@[simp]
theorem zeroless_definition {parts : List Part} :
    Zeroless (Statement.definition parts) ↔ Zeroless parts :=
  Iff.rfl

@[simp]
theorem zeroless_utility {parts : List Part} :
    Zeroless (Statement.utility parts) ↔ Zeroless parts :=
  Iff.rfl

/-- Statements without a zero are printed without one. -/
theorem zeroless_printStatements {statements : List Statement} :
    Zeroless (printStatements statements) ↔ Zeroless statements := by
  rw [printStatements, zeroless_joinWith "; " (by simp +decide)]
  simp [Statement.text]

end Statements

end Sql

end ColumnVeil
