import ColumnVeil.Proofs.Traversal.Zeroless
import ColumnVeil.Proofs.Shield.Constant
import ColumnVeil.Shield.Chain

/-!
# Shields without a zero

What the shields put into statements are names of shadow columns, hexadecimal digits and `NULL`.
So if no name in the definitions of the protected columns holds a zero, none comes into a
statement through them.
-/

namespace ColumnVeil

open Sql Walk

variable {σ : Type} {catalog : Catalog}

/-! ## Names of columns -/

instance : Textual ColumnDefinition where
  Zeroless definition := Zeroless definition.name ∧ Zeroless definition.blindIndexColumn ∧
    Zeroless definition.joinColumn

instance : Textual TableDefinition where
  Zeroless table := Zeroless table.name ∧ Zeroless table.columns

instance : Textual ColumnRule where
  Zeroless rule := Zeroless rule.shadows

instance : Textual Catalog where
  Zeroless catalog := ∀ entry ∈ catalog.rules, Zeroless entry.2

theorem zeroless_shadow {column suffix : String} {named : Option String}
    (ofColumn : Zeroless column) (ofSuffix : Zeroless suffix) (ofName : Zeroless named) :
    Zeroless (ColumnDefinition.shadow column suffix named) := by
  cases named with
  | none => simp [ColumnDefinition.shadow, ofColumn, ofSuffix]
  | some name => exact Text.zeroless_lowercase (zeroless_some.mp ofName)

theorem zeroless_rule {definition : ColumnDefinition} (zeroless : Zeroless definition)
    {table : String} {rule : ColumnRule} (accepted : definition.rule table = .ok rule) :
    Zeroless rule := by
  obtain ⟨ofColumn, ofIndex, ofJoin⟩ := zeroless
  replace ofColumn := Text.zeroless_lowercase ofColumn
  obtain ⟨-, dataType, -, rfl⟩ := ColumnDefinition.rule_eq_ok_iff.mp accepted
  have ofShadow : Zeroless (definition.stated dataType).joinShadow := by
    simp only [ColumnDefinition.stated, zeroless_ite, zeroless_some]
    exact ⟨fun _ => zeroless_shadow ofColumn (by simp +decide) ofJoin, fun _ => zeroless_none⟩
  change Zeroless (((definition.stated dataType).blindIndex.map BlindIndex.column).toList ++
    (definition.stated dataType).joinShadow.toList)
  rw [zeroless_append, zeroless_optionToList, zeroless_optionToList]
  refine ⟨?_, ofShadow⟩
  simp only [ColumnDefinition.stated]
  cases definition.blindIndexKey with
  | none => exact zeroless_none
  | some key => exact zeroless_some.mpr (zeroless_shadow ofColumn (by simp +decide) ofIndex)

namespace Catalog

/-- No name in a catalog holds a zero if none in the definitions does. -/
theorem zeroless_ofDefinitions {tables : List TableDefinition} (zeroless : Zeroless tables)
    {joinKeySize : Nat} (accepted : ofDefinitions tables joinKeySize = .ok catalog) :
    Zeroless catalog := by
  intro kept member
  obtain ⟨table, listed, definition, ofTable, stated⟩ := exists_definition_of_mem accepted member
  exact zeroless_rule ((zeroless table listed).2 definition ofTable) stated

theorem zeroless_ruleOf (zeroless : Zeroless catalog) {table column : String} {rule : ColumnRule}
    (ruled : catalog.rule? table column = some rule) : Zeroless rule := by
  obtain ⟨before, after, split, -⟩ := List.lookup_eq_some_iff.mp ruled
  refine zeroless (⟨foldCase table, foldCase column⟩, rule) ?_
  simp [split]

end Catalog

namespace ColumnRule

variable {rule : ColumnRule}

theorem zeroless_blindIndex (zeroless : Zeroless rule) {index : BlindIndex}
    (indexed : rule.blindIndex = some index) : Zeroless index.column :=
  zeroless index.column (by simp [shadows, indexed])

theorem zeroless_joinShadow (zeroless : Zeroless rule) {shadow : String}
    (joined : rule.joinShadow = some shadow) : Zeroless shadow :=
  zeroless shadow (by simp [shadows, joined])

end ColumnRule

/-! ## References and values -/

theorem zeroless_renamed {column : String} (ofColumn : Zeroless column) {expr : Expr}
    (zeroless : Zeroless expr) : Zeroless (expr.renamed column) := by
  have renamed : Zeroless (⟨column, none⟩ : Ident) := by simp [ofColumn]
  cases expr with
  | identifier ident =>
      exact zeroless_identifier.mpr renamed
  | compound parts =>
      simp only [zeroless_compound] at zeroless
      simp only [Expr.renamed, zeroless_compound, zeroless_ite, zeroless_append, zeroless_cons,
        zeroless_nil, and_true]
      exact ⟨fun _ => trivial,
        fun _ => ⟨fun part member => zeroless part (List.dropLast_subset parts member), renamed⟩⟩
  | _ => exact zeroless

theorem zeroless_hex (bytes : Bytes) : Zeroless (Hex.encode bytes) := by
  have digits : ∀ value < 16, Zeroless (Hex.digit value) := by decide
  intro member
  obtain ⟨value, bound, zero⟩ := Hex.digits_encode bytes _ member
  exact digits value bound zero.symm

theorem zeroless_ofBytes (bytes : Bytes) : Zeroless (Expr.ofBytes bytes) := by
  simp +decide [Expr.ofBytes, zeroless_content, Value.content, zeroless_hex]

theorem zeroless_null : Zeroless Expr.null := by
  simp +decide [Expr.null, zeroless_content, Value.content]

/-! ## Treatments -/

/-- A treatment whose values hold no zero, nor the shadows that it appends. -/
structure Treatment.Plain (treatment : Treatment σ) : Prop where
  shadow : ∀ {rule shadow}, Zeroless rule → treatment.carriage? rule = some (.append shadow) →
    Zeroless shadow
  value : ∀ rule literal, Ensures Zeroless (treatment.value rule literal)

namespace Treatment.Plain

variable {treatment : Treatment σ}

theorem valueOf (plain : treatment.Plain) (statement : String) (rule : ColumnRule)
    (expr : Option Expr) : Ensures Zeroless (treatment.valueOf statement rule expr) := by
  unfold Treatment.valueOf
  split
  · exact plain.value rule _
  · exact .throw _

theorem shadows (plain : treatment.Plain) (ofCatalog : Zeroless catalog) (table : String)
    (columns : List Ident) : Zeroless (shadows (treatment.targets catalog table columns)) := by
  intro column member
  obtain ⟨target, targeted, appended⟩ := List.mem_filterMap.mp member
  obtain ⟨⟨name, position⟩, -, stated⟩ := List.mem_filterMap.mp targeted
  obtain ⟨rule, ruled, stated⟩ := Option.bind_eq_some_iff.mp stated
  obtain ⟨carriage, carried, stated⟩ := Option.bind_eq_some_iff.mp stated
  cases stated
  cases carriage with
  | replace => cases appended
  | append shadow =>
      cases appended
      simp [plain.shadow (Catalog.zeroless_ruleOf ofCatalog ruled) carried]

theorem row (plain : treatment.Plain) (targets : List Target) {row : List Expr}
    (zeroless : Zeroless row) : Ensures Zeroless (treatment.treatRow targets row) := by
  refine .foldlM (fun row target known => ?_) zeroless
  refine (plain.valueOf _ _ _).bind fun value ofValue => ?_
  split
  · exact .pure (by simp [known, ofValue])
  · refine .pure fun expr member => ?_
    rcases List.mem_or_eq_of_mem_set member with kept | rfl
    · exact known expr kept
    · exact ofValue

theorem rows (plain : treatment.Plain) (width : Nat) (targets : List Target)
    {rows : List (List Expr)} (zeroless : Zeroless rows) :
    Ensures Zeroless (treatment.treatRows width targets rows) := by
  refine .mapM fun row member => ?_
  split
  · exact .throw _
  · exact plain.row targets (zeroless row member)

theorem columns (plain : treatment.Plain) (ofCatalog : Zeroless catalog) (table : String)
    {insert : Insert} (zeroless : Zeroless insert) :
    Ensures Zeroless (treatment.treatColumns catalog table insert) := by
  unfold treatColumns
  refine .refuseIf (insert.columns.isEmpty = true) (.query .columnsRequired) ?_
  by_cases idle : (treatment.targets catalog table insert.columns).isEmpty = true
  · simp only [idle, if_true]
    exact .pure zeroless
  · simp only [idle]
    cases brought : insert.source with
    | none =>
        exact .pure zeroless
    | some query =>
        cases query with
        | mk recursive ctes body order tail =>
            cases body with
            | values explicitRow rows =>
                obtain ⟨words, name, aliasName, columns, partition, source, others⟩ := zeroless
                simp only [brought, zeroless_some, zeroless_query, zeroless_values] at source
                refine (plain.rows _ _ source.2.1).bind fun rows treated => .pure ?_
                refine ⟨words, name, aliasName, ?_, partition, ?_, others⟩
                · exact zeroless_append.mpr ⟨columns, plain.shadows ofCatalog table _⟩
                · simp [source, treated]
            | _ => exact .throw _

theorem assignment (plain : treatment.Plain) (ofCatalog : Zeroless catalog) (table : String)
    {assignment : Assignment} (zeroless : Zeroless assignment) :
    Ensures Zeroless (treatment.treatAssignment catalog table assignment) := by
  have kept : Zeroless (assignment, (none : Option Assignment)) := ⟨zeroless, zeroless_none⟩
  unfold treatAssignment
  split
  · rename_i names stated
    exact .refuseIf
      ((names.any fun name =>
        ((name.last?.bind (catalog.rule? table)).bind treatment.carriage?).isSome) = true)
      (.query (.literalRequired "UPDATE" treatment.kind)) (.pure kept)
  · split
    · exact .pure kept
    · rename_i rule ruled
      split
      · exact .pure kept
      · rename_i carriage carried
        refine (plain.valueOf _ _ _).bind fun value ofValue => ?_
        obtain ⟨column, -, ruled⟩ := Option.bind_eq_some_iff.mp ruled
        split
        · have ofShadow := plain.shadow (Catalog.zeroless_ruleOf ofCatalog ruled) carried
          exact .pure ⟨zeroless, by simp [ofShadow, ofValue]⟩
        · exact .pure ⟨⟨zeroless.1, ofValue⟩, zeroless_none⟩

theorem assignments (plain : treatment.Plain) (ofCatalog : Zeroless catalog) (table : String)
    {assignments : List Assignment} (zeroless : Zeroless assignments) :
    Ensures Zeroless (treatment.treatAssignments catalog table assignments) := by
  refine (Ensures.mapM fun assignment member =>
    plain.assignment ofCatalog table (zeroless assignment member)).bind fun treated known => ?_
  refine .pure (zeroless_append.mpr ⟨?_, ?_⟩)
  · exact zeroless_map.mpr fun pair member => (known pair member).1
  · intro appended member
    obtain ⟨pair, found, second⟩ := List.mem_filterMap.mp member
    exact (known pair found).2 appended second

theorem insertion (plain : treatment.Plain) (ofCatalog : Zeroless catalog) {insert : Insert}
    (zeroless : Zeroless insert) : Ensures Zeroless (treatment.treatInsert catalog insert) := by
  unfold treatInsert
  split
  · exact .pure zeroless
  · split
    · exact .pure zeroless
    · refine (plain.columns ofCatalog _ zeroless).bind fun insert known => ?_
      split
      · rename_i words assignments condition stated
        obtain ⟨wording, name, aliasName, columns, partition, source, conflict, returning⟩ := known
        simp only [stated, zeroless_ruleAssign] at conflict
        refine (plain.assignments ofCatalog _ conflict.2.1).bind fun assignments treated =>
          .pure ⟨wording, name, aliasName, columns, partition, source, ?_, returning⟩
        simp [conflict, treated]
      · exact .pure known

theorem alteration (plain : treatment.Plain) (ofCatalog : Zeroless catalog) {update : Update}
    (zeroless : Zeroless update) : Ensures Zeroless (treatment.treatUpdate catalog update) := by
  unfold treatUpdate
  split
  · split
    · exact .pure zeroless
    · split
      · exact .pure zeroless
      · obtain ⟨words, table, assignments, relations, condition, returning⟩ := zeroless
        exact (plain.assignments ofCatalog _ assignments).bind fun _ treated =>
          .pure ⟨words, table, treated, relations, condition, returning⟩
  · exact .pure zeroless

end Treatment.Plain

/-! ## Visitors -/

namespace IndexShadow

theorem zeroless_value {rule : ColumnRule} {index : BlindIndex} {literal : Literal} {result : Expr}
    (stated : value rule index literal = .ok result) : Zeroless result := by
  obtain ⟨plaintext, -, stated⟩ := bind_eq_ok_iff.mp stated
  cases plaintext with
  | none =>
      cases stated
      exact zeroless_null
  | some plaintext =>
      cases stated
      exact zeroless_ofBytes _

theorem treatment_plain : treatment.Plain where
  shadow := by
    intro rule shadow zeroless appended
    obtain ⟨index, indexed, named⟩ := Option.map_eq_some_iff.mp appended
    cases named
    exact ColumnRule.zeroless_blindIndex zeroless indexed
  value := by
    intro rule literal
    simp only [treatment]
    split
    · exact .ofExcept fun _ => zeroless_value
    · exact .pure zeroless_null

variable (ofCatalog : Zeroless catalog)
include ofCatalog

theorem ensures_indexed? (expr : Expr) (context : Context) :
    Ensures (fun found => ∀ indexed ∈ found, Zeroless indexed.2.column)
      (indexed? catalog expr context) := by
  refine .after fun column => ?_
  cases column with
  | none =>
      exact .pure (by rintro _ ⟨⟩)
  | some column =>
      refine .pure fun indexed found => ?_
      obtain ⟨rule, ruled, found⟩ := Option.bind_eq_some_iff.mp found
      obtain ⟨index, stated, found⟩ := Option.bind_eq_some_iff.mp found
      cases found
      exact ColumnRule.zeroless_blindIndex (Catalog.zeroless_ruleOf ofCatalog ruled) stated

theorem ensures_membership {operand : Expr} {items : List Expr} {context : Context}
    (zeroless : Zeroless operand) :
    Ensures Zeroless (membership catalog operand items context) := by
  unfold membership
  split
  · exact .pure zeroless_none
  · split
    · exact .pure zeroless_none
    · refine (ensures_indexed? ofCatalog _ _).bind fun found known => ?_
      split
      · exact .pure zeroless_none
      · rename_i rule index
        refine (Ensures.mapM fun literal _ => .ofExcept fun _ => zeroless_value).bind
          fun items values => .pure (zeroless_some.mpr ⟨?_, values⟩)
        exact zeroless_renamed (known (rule, index) rfl) zeroless

theorem ensures_operation {left right : Expr} {operator : BinaryOperator} {context : Context}
    (zeroless : Zeroless (Expr.binary left operator right)) :
    Ensures Zeroless (operation catalog left operator right context) := by
  have parts := zeroless_binary.mp zeroless
  unfold operation
  refine .after fun paired => ?_
  split
  · exact .pure (zeroless_some.mpr zeroless)
  · split
    · exact .pure zeroless_none
    · extract_lets compared
      have comparison (column literal : Expr) (known : Zeroless column) :
          Ensures Zeroless (compared column literal) := by
        refine (ensures_indexed? ofCatalog _ _).bind fun found ofIndex => ?_
        split
        · exact .pure zeroless_none
        · rename_i rule index
          refine Ensures.bind (.ofExcept fun _ => zeroless_value) fun value ofValue => ?_
          have ofColumn := zeroless_renamed (ofIndex (rule, index) rfl) known
          exact .pure (by simp [ofColumn, ofValue])
      split
      · refine (comparison left right parts.1).bind fun found known => .pure ?_
        cases found with
        | none => exact zeroless_none
        | some found =>
            simp only [zeroless_some] at known
            simp [known.1, known.2, parts]
      · refine (comparison right left parts.2.2).bind fun found known => .pure ?_
        cases found with
        | none => exact zeroless_none
        | some found =>
            simp only [zeroless_some] at known
            simp [known.1, known.2, parts]
      · exact .pure zeroless_none

theorem visitor_plain : (visitor catalog).Plain where
  insert zeroless := treatment_plain.insertion ofCatalog zeroless
  update zeroless := treatment_plain.alteration ofCatalog zeroless
  membership zeroless _ := ensures_membership ofCatalog zeroless
  operation zeroless := ensures_operation ofCatalog zeroless
  column := by
    intro expr column context zeroless
    simp only [visitor, IndexShadow.column]
    split
    · exact .pure zeroless
    · rename_i index indexed
      obtain ⟨rule, ruled, indexed⟩ := Option.bind_eq_some_iff.mp indexed
      have ofIndex :=
        ColumnRule.zeroless_blindIndex (Catalog.zeroless_ruleOf ofCatalog ruled) indexed
      split
      · exact .pure zeroless
      · split
        · exact .pure (zeroless_renamed ofIndex zeroless)
        · exact .throw _

end IndexShadow

namespace JoinShadow

theorem zeroless_value {rule : ColumnRule} {literal : Literal} {result : Expr}
    (stated : value catalog rule literal = .ok result) : Zeroless result := by
  obtain ⟨plaintext, -, stated⟩ := bind_eq_ok_iff.mp stated
  cases plaintext with
  | none =>
      cases stated
      exact zeroless_null
  | some plaintext =>
      cases stated
      exact zeroless_ofBytes _

theorem treatment_plain : (treatment catalog).Plain where
  shadow := by
    intro rule shadow zeroless appended
    obtain ⟨joined, stated, named⟩ := Option.map_eq_some_iff.mp appended
    cases named
    exact ColumnRule.zeroless_joinShadow zeroless stated
  value _ _ := .ofExcept fun _ => zeroless_value

variable (ofCatalog : Zeroless catalog)
include ofCatalog

theorem zeroless_shadow? {column : ColumnRef} {shadow : String}
    (found : shadow? catalog column = some shadow) : Zeroless shadow := by
  obtain ⟨rule, ruled, joined⟩ := Option.bind_eq_some_iff.mp found
  exact ColumnRule.zeroless_joinShadow (Catalog.zeroless_ruleOf ofCatalog ruled) joined

theorem ensures_operation {left right : Expr} {operator : BinaryOperator} {context : Context}
    (zeroless : Zeroless (Expr.binary left operator right)) :
    Ensures Zeroless (operation catalog left operator right context) := by
  rw [zeroless_binary] at zeroless
  refine .after fun pair => ?_
  split
  · exact .pure zeroless_none
  · refine .after fun scope => .refuseIf _ _ ?_
    split
    · rename_i leftShadow rightShadow leftFound rightFound
      have ofLeft := zeroless_renamed (zeroless_shadow? ofCatalog leftFound) zeroless.1
      have ofRight := zeroless_renamed (zeroless_shadow? ofCatalog rightFound) zeroless.2.2
      exact .after fun _ => .pure (by simp [zeroless, ofLeft, ofRight])
    · exact .pure zeroless_none

theorem visitor_plain : (visitor catalog).Plain where
  insert zeroless := treatment_plain.insertion ofCatalog zeroless
  update zeroless := treatment_plain.alteration ofCatalog zeroless
  membership _ _ := .pure zeroless_none
  operation zeroless := ensures_operation ofCatalog zeroless
  column := by
    intro expr column context zeroless
    simp only [visitor, JoinShadow.column]
    split
    · exact .pure zeroless
    · exact .throw _

end JoinShadow

namespace Encryption

theorem ensures_value (rule : ColumnRule) (key : Bytes) (literal : Literal) :
    Ensures Zeroless (value rule key literal) := by
  refine .after fun plaintext => ?_
  split
  · exact .pure zeroless_null
  · refine .after fun state => ?_
    split
    · exact .after fun _ => .pure (zeroless_ofBytes _)
    · exact .throw _

theorem treatment_plain : treatment.Plain where
  shadow := by
    intro rule shadow zeroless appended
    obtain ⟨key, -, replaced⟩ := Option.map_eq_some_iff.mp appended
    cases replaced
  value := by
    intro rule literal
    simp only [treatment]
    split
    · exact ensures_value _ _ _
    · exact .pure zeroless_null

theorem visitor_plain (ofCatalog : Zeroless catalog) : (visitor catalog).Plain where
  insert zeroless := treatment_plain.insertion ofCatalog zeroless
  update zeroless := treatment_plain.alteration ofCatalog zeroless
  membership _ _ := .pure zeroless_none
  operation _ := .pure zeroless_none
  column := by
    intro expr column context zeroless
    simp only [visitor]
    split
    · exact .throw _
    · exact .pure zeroless

end Encryption

/-- Statements without a zero pass the chain without getting one. -/
theorem Catalog.zeroless_of_chain (ofCatalog : Zeroless catalog)
    {statements result : List Statement} (zeroless : Zeroless statements) {before after : ChainState}
    (run : Gives (catalog.chain.protect statements) before result after) : Zeroless result := by
  obtain ⟨indexed, first, run⟩ := Shield.gives_protect_andThen_iff.mp run
  obtain ⟨joined, second, third⟩ := Shield.gives_protect_andThen_iff.mp run
  have ofIndexed := (IndexShadow.visitor_plain ofCatalog).statements zeroless first
  have ofJoined : Zeroless joined := by
    obtain ⟨_, _, -, second⟩ := gives_bind_iff.mp second
    exact (JoinShadow.visitor_plain ofCatalog).statements ofIndexed second
  obtain ⟨_, _, -, third⟩ := gives_bind_iff.mp third
  exact (Encryption.visitor_plain ofCatalog).statements ofJoined third

end ColumnVeil
