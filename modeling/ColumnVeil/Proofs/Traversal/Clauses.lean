import ColumnVeil.Proofs.Traversal.Meeting

/-!
# Clauses of queries

The expressions of a query, each with the clause that it stands in.  Every one of them is a spot
directly inside the query, in the context of its clause, and the innermost frame of its scope
holds the relations of the query.  Every reference in it, outside the queries in it, is a spot
again or a side of an operation that is one, in the same scope and the same context.
-/

namespace ColumnVeil

open Sql

variable {σ : Type} {visitor : Visitor σ} {scope : Scope} {reaches : Bool} {context : Context}

namespace Sql

/-! ## References in expressions -/

mutual

theorem Expr.isColumn_of_mem_references (expr : Expr) :
    ∀ ref ∈ expr.references, ref.isColumn = true := by
  cases expr with
  | identifier ident => simp [Expr.references, Expr.isColumn]
  | compound parts => simp [Expr.references, Expr.isColumn]
  | value constant => simp [Expr.references]
  | binary left operator right =>
      intro ref member
      rcases List.mem_append.mp member with first | second
      · exact left.isColumn_of_mem_references ref first
      · exact right.isColumn_of_mem_references ref second
  | unary operator operand => exact operand.isColumn_of_mem_references
  | nested inner => exact inner.isColumn_of_mem_references
  | nullTest operand negated => exact operand.isColumn_of_mem_references
  | inList operand negated items =>
      intro ref member
      rcases List.mem_append.mp member with first | second
      · exact operand.isColumn_of_mem_references ref first
      · exact Expr.isColumn_of_mem_referencesAll items ref second
  | inQuery operand negated body => exact operand.isColumn_of_mem_references
  | between operand negated low high =>
      intro ref member
      rcases List.mem_append.mp member with early | third
      · rcases List.mem_append.mp early with first | second
        · exact operand.isColumn_of_mem_references ref first
        · exact low.isColumn_of_mem_references ref second
      · exact high.isColumn_of_mem_references ref third
  | like operand negated word pattern escape =>
      intro ref member
      rcases List.mem_append.mp member with first | second
      · exact operand.isColumn_of_mem_references ref first
      · exact pattern.isColumn_of_mem_references ref second
  | array named elements => exact Expr.isColumn_of_mem_referencesAll elements
  | subquery query => simp [Expr.references]
  | existence negated query => simp [Expr.references]
  | call name opening late closing =>
      intro ref member
      rcases List.mem_append.mp member with early | third
      · rcases List.mem_append.mp early with first | second
        · exact Part.isColumn_of_mem_referencesAll opening ref first
        · exact Part.isColumn_of_mem_referencesAll closing ref second
      · exact Part.isColumn_of_mem_referencesAll late ref third
  | form parts => exact Part.isColumn_of_mem_referencesAll parts
termination_by structural expr

theorem Expr.isColumn_of_mem_referencesAll (exprs : List Expr) :
    ∀ ref ∈ Expr.referencesAll exprs, ref.isColumn = true := by
  cases exprs with
  | nil => simp [Expr.referencesAll]
  | cons expr rest =>
      intro ref member
      rcases List.mem_append.mp member with first | others
      · exact expr.isColumn_of_mem_references ref first
      · exact Expr.isColumn_of_mem_referencesAll rest ref others
termination_by structural exprs

theorem Part.isColumn_of_mem_references (part : Part) :
    ∀ ref ∈ part.references, ref.isColumn = true := by
  cases part with
  | expr expr => exact expr.isColumn_of_mem_references
  | words text => simp [Part.references]
  | query query => simp [Part.references]
  | tables tables => simp [Part.references]
  | relation name => simp [Part.references]
termination_by structural part

theorem Part.isColumn_of_mem_referencesAll (parts : List Part) :
    ∀ ref ∈ Part.referencesAll parts, ref.isColumn = true := by
  cases parts with
  | nil => simp [Part.referencesAll]
  | cons part rest =>
      intro ref member
      rcases List.mem_append.mp member with first | others
      · exact part.isColumn_of_mem_references ref first
      · exact Part.isColumn_of_mem_referencesAll rest ref others
termination_by structural parts

end

/-- A literal refers to nothing. -/
theorem Expr.references_of_literal (expr : Expr) (literal : expr.literal?.isSome = true) :
    expr.references = [] := by
  cases expr with
  | value constant => rfl
  | nested inner => exact inner.references_of_literal literal
  | unary operator operand =>
      refine operand.references_of_literal ?_
      cases operator with
      | minus =>
          cases found : operand.literal? with
          | none => simp [Expr.literal?, found] at literal
          | some constant => rfl
      | _ => cases literal
  | _ => cases literal
termination_by structural expr

/-- Neither do several of them. -/
theorem Expr.referencesAll_of_literals {items : List Expr}
    (literals : (items.all fun item => item.literal?.isSome) = true) :
    Expr.referencesAll items = [] := by
  induction items with
  | nil => rfl
  | cons item rest inductionHypothesis =>
      rw [List.all_cons, Bool.and_eq_true] at literals
      rw [Expr.referencesAll, item.references_of_literal literals.1,
        inductionHypothesis literals.2, List.nil_append]

/-- A reference in an operand of an operation is the operand. -/
theorem Expr.eq_of_mem_references {operand ref : Expr} (isOperand : operand.isOperand = true)
    (member : ref ∈ operand.references) : ref = operand := by
  rcases Bool.or_eq_true_iff.mp isOperand with isColumn | literal
  · rw [Expr.references_of_isColumn isColumn] at member
    exact List.mem_singleton.mp member
  · rw [operand.references_of_literal literal] at member
    cases member

/-- A reference belongs to a unit that has an address in an expression: to itself, or to an
operation that is looked at as a whole. -/
def Expr.Addresses (scope : Scope) (context : Context) (expr ref : Expr) : Prop :=
  ∃ path unit, (Spot.expr scope context expr).at? path = some (.expr scope context unit) ∧
    ref ∈ unit.references ∧ (unit = ref ∨ unit.isUnit = true)

theorem Expr.Addresses.of_operand {expr operand ref : Expr} (other : expr.isUnit = false)
    (member : operand ∈ expr.operands) (addresses : operand.Addresses scope context ref) :
    expr.Addresses scope context ref := by
  rcases addresses with ⟨path, unit, place, holds⟩
  have inside : .expr scope context operand ∈ (Spot.expr scope context expr).inner := by
    rw [Spot.inner, Expr.spots, other]
    exact List.mem_append_left _ (List.mem_map_of_mem member)
  rcases List.mem_iff_getElem?.mp inside with ⟨step, here⟩
  exact ⟨step :: path, unit, Spot.at?_cons_eq_some_iff.mpr ⟨_, here, place⟩, holds⟩

/-- References are themselves the operands of a construct that is not told apart. -/
theorem Expr.Addresses.of_isColumn {ref : Expr} (isColumn : ref.isColumn = true) :
    ref.Addresses scope context ref := by
  refine ⟨[], ref, rfl, ?_, Or.inl rfl⟩
  rw [Expr.references_of_isColumn isColumn]
  exact List.mem_singleton_self ref

theorem Expr.Addresses.of_parts {expr ref : Expr} {parts : List Part}
    (other : expr.isUnit = false) (operands : ∀ ref ∈ Part.referencesAll parts, ref ∈ expr.operands)
    (member : ref ∈ Part.referencesAll parts) : expr.Addresses scope context ref :=
  .of_operand other (operands ref member)
    (.of_isColumn (Part.isColumn_of_mem_referencesAll parts ref member))

mutual

/-- Every reference in an expression, outside the queries in it, belongs to a unit with an
address. -/
theorem Expr.addresses (expr : Expr) :
    ∀ ref ∈ expr.references, expr.Addresses scope context ref := by
  cases expr with
  | identifier ident =>
      intro ref member
      rcases List.mem_singleton.mp member with rfl
      exact .of_isColumn rfl
  | compound parts =>
      intro ref member
      rcases List.mem_singleton.mp member with rfl
      exact .of_isColumn rfl
  | value constant =>
      intro ref member
      cases member
  | binary left operator right =>
      intro ref member
      cases unit : (Expr.binary left operator right).isUnit with
      | true => exact ⟨[], _, rfl, member, Or.inr unit⟩
      | false =>
          rcases List.mem_append.mp member with first | second
          · exact .of_operand unit (by simp [operands]) (left.addresses ref first)
          · exact .of_operand unit (by simp [operands]) (right.addresses ref second)
  | unary operator operand =>
      exact fun ref member => .of_operand rfl (by simp [operands]) (operand.addresses ref member)
  | nested inner =>
      exact fun ref member => .of_operand rfl (by simp [operands]) (inner.addresses ref member)
  | nullTest operand negated =>
      exact fun ref member => .of_operand rfl (by simp [operands]) (operand.addresses ref member)
  | inList operand negated items =>
      intro ref member
      cases unit : (Expr.inList operand negated items).isUnit with
      | true => exact ⟨[], _, rfl, member, Or.inr unit⟩
      | false =>
          rcases List.mem_append.mp member with first | second
          · exact .of_operand unit (by simp [operands]) (operand.addresses ref first)
          · rcases Expr.exists_addresses items ref second with ⟨item, place, addresses⟩
            exact .of_operand unit (by simp [operands, place]) addresses
  | inQuery operand negated body =>
      exact fun ref member => .of_operand rfl (by simp [operands]) (operand.addresses ref member)
  | between operand negated low high =>
      intro ref member
      rcases List.mem_append.mp member with early | third
      · rcases List.mem_append.mp early with first | second
        · exact .of_operand rfl (by simp [operands]) (operand.addresses ref first)
        · exact .of_operand rfl (by simp [operands]) (low.addresses ref second)
      · exact .of_operand rfl (by simp [operands]) (high.addresses ref third)
  | like operand negated word pattern escape =>
      intro ref member
      rcases List.mem_append.mp member with first | second
      · exact .of_operand rfl (by simp [operands]) (operand.addresses ref first)
      · exact .of_operand rfl (by simp [operands]) (pattern.addresses ref second)
  | array named elements =>
      intro ref member
      rcases Expr.exists_addresses elements ref member with ⟨element, place, addresses⟩
      exact .of_operand rfl (by simp [operands, place]) addresses
  | subquery query =>
      intro ref member
      cases member
  | existence negated query =>
      intro ref member
      cases member
  | call name opening late closing =>
      intro ref member
      rcases List.mem_append.mp member with early | third
      · rcases List.mem_append.mp early with first | second
        · exact .of_parts rfl (by simp +contextual [operands]) first
        · exact .of_parts rfl (by simp +contextual [operands]) second
      · exact .of_parts rfl (by simp +contextual [operands]) third
  | form parts =>
      exact fun ref member => .of_parts rfl (by simp [operands]) member
termination_by structural expr

theorem Expr.exists_addresses (exprs : List Expr) :
    ∀ ref ∈ Expr.referencesAll exprs,
      ∃ expr ∈ exprs, expr.Addresses scope context ref := by
  cases exprs with
  | nil =>
      intro ref member
      cases member
  | cons expr rest =>
      intro ref member
      rcases List.mem_append.mp member with first | others
      · exact ⟨expr, List.mem_cons_self, expr.addresses ref first⟩
      · rcases Expr.exists_addresses rest ref others with ⟨found, place, addresses⟩
        exact ⟨found, List.mem_cons_of_mem _ place, addresses⟩
termination_by structural exprs

end

/-! ## Expressions of queries -/

/-- The expressions that a projection shows. -/
def SelectItem.exprs (items : List SelectItem) : List Expr :=
  (items.filterMap SelectItem.shown?).map Prod.fst

/-- The expressions of a selection, each with its clause. -/
def Select.clauses (reaches : Bool) : Select → List (Clause × Expr)
  | .mk _ projection _ relations _ condition groups _ having _ =>
      (SelectItem.exprs projection).map (.ofProjection reaches, ·) ++
        (TableWithJoins.conditionsAll relations).map (.joining, ·) ++
        condition.toList.map (.condition, ·) ++
        groups.map (.grouping, ·) ++
        having.toList.map (.having, ·)

/-- The expressions of the body of a query.  Rows of values are a projection of their own. -/
def QueryBody.clauses (reaches : Bool) : QueryBody → List (Clause × Expr)
  | .select selection => selection.clauses reaches
  | .values _ rows => rows.flatten.map (.projection, ·)
  | _ => []

/-- The expressions of a query, outside the queries in it, each with its clause. -/
def Query.clauses (reaches : Bool) : Query → List (Clause × Expr)
  | .mk _ _ body order _ => body.clauses reaches ++ order.map (.order, ·.expr)

/-- The names of the relations of the body of a query. -/
def QueryBody.names : QueryBody → List (String × String)
  | .select selection => selection.names
  | _ => []

/-- The names of the relations of a query. -/
def Query.names : Query → List (String × String)
  | .mk _ _ body _ _ => body.names

/-! ## Clauses are spots -/

mutual

theorem TableWithJoins.mem_constraints (tables : TableWithJoins) :
    ∀ condition ∈ tables.conditions, .expr scope .ofJoin condition ∈ tables.constraints scope := by
  cases tables with
  | mk relation joins =>
      intro condition member
      rcases List.mem_append.mp member with first | others
      · exact List.mem_append_left _ (relation.mem_constraints condition first)
      · exact List.mem_append_right _ (Join.mem_constraintsAll joins condition others)
termination_by structural tables

theorem Join.mem_constraintsAll (joins : List Join) :
    ∀ condition ∈ Join.conditionsAll joins,
      .expr scope .ofJoin condition ∈ Join.constraintsAll scope joins := by
  cases joins with
  | nil =>
      intro condition member
      cases member
  | cons join rest =>
      cases join with
      | mk words relation matching constraint =>
          intro condition member
          rcases List.mem_append.mp member with early | others
          · refine List.mem_append_left _ ?_
            rcases List.mem_append.mp early with first | own
            · exact List.mem_append_left _ (relation.mem_constraints condition first)
            · refine List.mem_append_right _ ?_
              cases constraint with
              | on written =>
                  rcases List.mem_singleton.mp own with rfl
                  exact List.mem_singleton_self _
              | none => cases own
              | sharing columns => cases own
              | natural => cases own
          · exact List.mem_append_right _ (Join.mem_constraintsAll rest condition others)
termination_by structural joins

theorem TableFactor.mem_constraints (factor : TableFactor) :
    ∀ condition ∈ factor.conditions,
      .expr scope .ofJoin condition ∈ factor.constraints scope := by
  cases factor with
  | nestedJoin inner aliasName => exact inner.mem_constraints
  | table name arguments aliasName tail =>
      intro condition member
      cases member
  | derived isLateral query aliasName =>
      intro condition member
      cases member
  | function parts aliasName tail =>
      intro condition member
      cases member
termination_by structural factor

end

theorem TableWithJoins.mem_constraintsAll (relations : List TableWithJoins) :
    ∀ condition ∈ TableWithJoins.conditionsAll relations,
      .expr scope .ofJoin condition ∈ TableWithJoins.constraintsAll scope relations := by
  induction relations with
  | nil =>
      intro condition member
      cases member
  | cons tables rest inductionHypothesis =>
      intro condition member
      rcases List.mem_append.mp member with first | others
      · exact List.mem_append_left _ (tables.mem_constraints condition first)
      · exact List.mem_append_right _ (inductionHypothesis condition others)

/-- An expression stands in a list of spots, in a scope with some frames. -/
def Expr.StandsIn (spots : List Spot) (frames : List Frame) (context : Context) (expr : Expr) :
    Prop :=
  ∃ scope : Scope, scope.frames = frames ∧ .expr scope context expr ∈ spots

theorem Expr.StandsIn.append_left {spots others : List Spot} {frames : List Frame} {expr : Expr}
    (stands : expr.StandsIn spots frames context) :
    expr.StandsIn (spots ++ others) frames context := by
  rcases stands with ⟨scope, same, member⟩
  exact ⟨scope, same, List.mem_append_left _ member⟩

theorem Expr.StandsIn.append_right {spots others : List Spot} {frames : List Frame} {expr : Expr}
    (stands : expr.StandsIn others frames context) :
    expr.StandsIn (spots ++ others) frames context := by
  rcases stands with ⟨scope, same, member⟩
  exact ⟨scope, same, List.mem_append_right _ member⟩

/-- Each item of a projection stands behind the output names before it. -/
theorem SelectItem.stands (items : List SelectItem) (scope : Scope) (reaches : Bool) :
    ∀ expr ∈ SelectItem.exprs items,
      expr.StandsIn (SelectItem.spots scope reaches items) scope.frames
        { selectBody := reaches } := by
  induction items generalizing scope with
  | nil =>
      intro expr member
      cases member
  | cons item rest inductionHypothesis =>
      -- Showing a column records an output name and brings nothing into scope.
      have shows (shown : Expr) (aliasName : Option Ident) (expr : Expr)
          (member : expr ∈ shown :: SelectItem.exprs rest) :
          let behind := scope.showing reaches shown aliasName
          expr.StandsIn (.expr behind { selectBody := reaches } shown ::
            SelectItem.spots behind reaches rest) scope.frames { selectBody := reaches } := by
        have same := scope.frames_showing reaches shown aliasName
        rcases List.mem_cons.mp member with rfl | other
        · exact ⟨_, same, List.mem_cons_self⟩
        · rcases inductionHypothesis (scope.showing reaches shown aliasName) expr other with
            ⟨inner, frames, place⟩
          exact ⟨inner, frames.trans same, List.mem_cons_of_mem _ place⟩
      cases item with
      | expr shown => exact shows shown none
      | aliased shown aliasName => exact shows shown (some aliasName)
      | wildcard qualifier =>
          intro expr member
          rcases inductionHypothesis scope expr member with ⟨inner, frames, place⟩
          exact ⟨inner, frames, List.mem_cons_of_mem _ place⟩

/-- The frames behind a projection are those before it. -/
theorem SelectItem.frames_leave (items : List SelectItem) (scope : Scope) (reaches : Bool) :
    (SelectItem.leave scope reaches items).frames = scope.frames :=
  SelectItem.holds_leave (fun other => other.frames = scope.frames)
    (fun same => (Scope.frames_showing ..).trans same) items rfl

/-- The expressions of a selection stand in a scope in which its relations are. -/
theorem Select.stands (select : Select) (scope : Scope) :
    ∀ entry ∈ select.clauses reaches,
      entry.2.StandsIn (select.spots scope reaches) (scope.addAll select.names).frames
        entry.1.context := by
  cases select with
  | mk lead projection target relations views condition groups grouping having tail =>
      have behind : (SelectItem.leave (scope.addAll (TableWithJoins.namesAll relations)) reaches
          projection).frames = (scope.addAll (TableWithJoins.namesAll relations)).frames :=
        SelectItem.frames_leave ..
      rintro ⟨clause, shown⟩ member
      simp only [Select.clauses, List.mem_append, List.mem_map, Prod.mk.injEq] at member
      rcases member with (((⟨expr, place, rfl, rfl⟩ | ⟨expr, place, rfl, rfl⟩) |
        ⟨expr, place, rfl, rfl⟩) | ⟨expr, place, rfl, rfl⟩) | ⟨expr, place, rfl, rfl⟩
      · rw [Clause.context_ofProjection]
        exact ((((SelectItem.stands projection _ _ expr place).append_right).append_left
          |>.append_left).append_left).append_left
      · refine .append_left (.append_left (.append_left (.append_right ⟨_, behind, ?_⟩)))
        exact TableWithJoins.mem_constraintsAll relations expr place
      · exact .append_left (.append_left (.append_right ⟨_, behind, List.mem_map_of_mem place⟩))
      · exact .append_left (.append_right ⟨_, behind, List.mem_map_of_mem place⟩)
      · exact .append_right ⟨_, behind, List.mem_map_of_mem place⟩

theorem QueryBody.stands (body : QueryBody) (scope : Scope) :
    ∀ entry ∈ body.clauses reaches,
      entry.2.StandsIn (body.spots scope reaches) (scope.addAll body.names).frames
        entry.1.context := by
  cases body with
  | select select => exact select.stands scope
  | values explicitRow rows =>
      rintro entry member
      rcases List.mem_map.mp member with ⟨expr, place, rfl⟩
      exact ⟨scope, rfl, List.mem_map_of_mem place⟩
  | _ =>
      intro entry member
      cases member

mutual

/-- A query leaves the frames around it as they were. -/
theorem Query.frames_leave (query : Query) (scope : Scope) :
    (query.leave scope reaches).frames = scope.frames := by
  cases query with
  | mk recursive ctes body order tail =>
      have inside : (body.leave (scope.push reaches) reaches).frames =
          ((scope.push reaches).addAll body.names).frames := body.frames_leave _
      have around := congrArg Scope.frames (Scope.pop_addAll (scope.push reaches) body.names)
      exact (congrArg List.tail inside).trans around
termination_by structural query

/-- The frames behind the body of a query are those of its relations. -/
theorem QueryBody.frames_leave (body : QueryBody) (scope : Scope) :
    (body.leave scope reaches).frames = (scope.addAll body.names).frames := by
  cases body with
  | select select =>
      cases select
      exact SelectItem.frames_leave ..
  | parenthesized query => exact query.frames_leave scope
  | _ => rfl
termination_by structural body

end

/--
Every expression of a query stands directly inside it, in the context of its clause, and the
innermost frame of its scope holds the relations of the query.
-/
theorem Query.stands (query : Query) (scope : Scope) :
    ∀ entry ∈ query.clauses reaches,
      entry.2.StandsIn (query.spots scope reaches) (⟨query.names, reaches⟩ :: scope.frames)
        entry.1.context := by
  cases query with
  | mk recursive ctes body order tail =>
      have entered : ((scope.push reaches).addAll body.names).frames =
          ⟨body.names, reaches⟩ :: scope.frames := by
        rw [Scope.addAll_of_frames rfl]
        rfl
      rintro entry member
      rcases List.mem_append.mp member with own | ordered
      · rcases body.stands (scope.push reaches) entry own with ⟨inner, frames, place⟩
        exact .append_left (.append_right ⟨inner, frames.trans entered, place⟩)
      · rcases List.mem_map.mp ordered with ⟨item, place, rfl⟩
        refine .append_right ⟨body.leave (scope.push reaches) reaches,
          (body.frames_leave _).trans entered, ?_⟩
        exact List.mem_map.mpr ⟨item, place, rfl⟩

end Sql

/-! ## Queries apart -/

/-- A spot that is not a query whose rows reach the client. -/
def Spot.IsApart : Spot → Prop
  | .query _ reaches _ => reaches = false
  | _ => True

/-- No spot of a list is a query whose rows reach the client. -/
abbrev Spot.AllApart (spots : List Spot) : Prop :=
  ∀ spot ∈ spots, spot.IsApart

theorem Spot.AllApart.append {first second : List Spot} (former : Spot.AllApart first)
    (latter : Spot.AllApart second) : Spot.AllApart (first ++ second) :=
  List.forall_mem_append.mpr ⟨former, latter⟩

theorem Spot.AllApart.exprs (scope : Scope) (context : Context) (exprs : List Expr) :
    Spot.AllApart (exprs.map (.expr scope context)) := by
  intro spot member
  rcases List.mem_map.mp member with ⟨expr, -, rfl⟩
  trivial

namespace Sql

mutual

theorem TableWithJoins.apart_sources (tables : TableWithJoins) (scope : Scope) :
    Spot.AllApart (tables.sources scope) := by
  cases tables with
  | mk relation joins =>
      exact (relation.apart_sources scope).append (Join.apart_sourcesAll joins _)
termination_by structural tables

theorem Join.apart_sourcesAll (joins : List Join) (scope : Scope) :
    Spot.AllApart (Join.sourcesAll scope joins) := by
  cases joins with
  | nil =>
      intro spot member
      cases member
  | cons join rest =>
      cases join with
      | mk words relation matching constraint =>
          exact (relation.apart_sources scope).append (Join.apart_sourcesAll rest _)
termination_by structural joins

theorem TableFactor.apart_sources (factor : TableFactor) (scope : Scope) :
    Spot.AllApart (factor.sources scope) := by
  cases factor with
  | nestedJoin inner aliasName => exact inner.apart_sources scope
  | table name arguments aliasName tail =>
      intro spot member
      cases member
  | derived isLateral query aliasName =>
      intro spot member
      rcases List.mem_singleton.mp member with rfl
      rfl
  | function parts aliasName tail =>
      intro spot member
      rcases List.mem_singleton.mp member with rfl
      trivial
termination_by structural factor

end

theorem TableWithJoins.apart_sourcesAll (relations : List TableWithJoins) (scope : Scope) :
    Spot.AllApart (TableWithJoins.sourcesAll scope relations) := by
  induction relations generalizing scope with
  | nil =>
      intro spot member
      cases member
  | cons tables rest inductionHypothesis =>
      exact (tables.apart_sources scope).append (inductionHypothesis _)

mutual

theorem TableWithJoins.apart_constraints (tables : TableWithJoins) (scope : Scope) :
    Spot.AllApart (tables.constraints scope) := by
  cases tables with
  | mk relation joins =>
      exact (relation.apart_constraints scope).append (Join.apart_constraintsAll joins scope)
termination_by structural tables

theorem Join.apart_constraintsAll (joins : List Join) (scope : Scope) :
    Spot.AllApart (Join.constraintsAll scope joins) := by
  cases joins with
  | nil =>
      intro spot member
      cases member
  | cons join rest =>
      cases join with
      | mk words relation matching constraint =>
          refine ((relation.apart_constraints scope).append ?_).append
            (Join.apart_constraintsAll rest scope)
          intro spot member
          cases constraint with
          | none => cases member
          | on condition =>
              rcases List.mem_singleton.mp member with rfl
              trivial
          | sharing columns =>
              rcases List.mem_singleton.mp member with rfl
              trivial
          | natural =>
              rcases List.mem_singleton.mp member with rfl
              trivial
termination_by structural joins

theorem TableFactor.apart_constraints (factor : TableFactor) (scope : Scope) :
    Spot.AllApart (factor.constraints scope) := by
  cases factor with
  | nestedJoin inner aliasName => exact inner.apart_constraints scope
  | _ =>
      intro spot member
      cases member
termination_by structural factor

end

theorem TableWithJoins.apart_constraintsAll (relations : List TableWithJoins) (scope : Scope) :
    Spot.AllApart (TableWithJoins.constraintsAll scope relations) := by
  induction relations with
  | nil =>
      intro spot member
      cases member
  | cons tables rest inductionHypothesis =>
      exact (tables.apart_constraints scope).append inductionHypothesis

theorem SelectItem.apart_spots (items : List SelectItem) (scope : Scope) (reaches : Bool) :
    Spot.AllApart (SelectItem.spots scope reaches items) := by
  induction items generalizing scope with
  | nil =>
      intro spot member
      cases member
  | cons item rest inductionHypothesis =>
      cases item <;>
      · refine List.forall_mem_cons.mpr ⟨trivial, inductionHypothesis _⟩

end Sql

/-- Inside an expression, and inside a query whose rows do not reach the client, no rows reach
the client. -/
theorem Spot.IsApart.inner {spot : Spot} (apart : spot.IsApart) : Spot.AllApart spot.inner := by
  cases spot with
  | expr scope context expr =>
      refine .append ?_ ?_
      · split
        · intro spot member
          cases member
        · exact .exprs scope context _
      · intro spot member
        rcases List.mem_map.mp member with ⟨query, -, rfl⟩
        rfl
  | star scope =>
      intro spot member
      cases member
  | unread scope feature =>
      intro spot member
      cases member
  | query scope reaches query =>
      cases apart
      cases query with
      | mk recursive ctes body order tail =>
          refine .append (.append ?_ ?_) ?_
          · intro spot member
            rcases List.mem_map.mp member with ⟨cte, -, rfl⟩
            rfl
          · cases body with
            | select select =>
                cases select with
                | mk lead projection target relations views condition groups grouping having
                    tail =>
                    exact (((((TableWithJoins.apart_sourcesAll relations _).append
                      (SelectItem.apart_spots projection _ _)).append
                      (TableWithJoins.apart_constraintsAll relations _)).append
                      (.exprs _ _ _)).append (.exprs _ _ _)).append (.exprs _ _ _)
            | parenthesized query =>
                intro spot member
                rcases List.mem_singleton.mp member with rfl
                rfl
            | values explicitRow rows => exact .exprs _ _ _
            | _ =>
                intro spot member
                cases member
          · intro spot member
            rcases List.mem_map.mp member with ⟨item, -, rfl⟩
            trivial

theorem Spot.IsApart.at? {spot found : Spot} (apart : spot.IsApart) {path : List Nat}
    (here : spot.at? path = some found) : found.IsApart := by
  induction path generalizing spot with
  | nil =>
      cases here
      exact apart
  | cons step path inductionHypothesis =>
      rcases Spot.at?_cons_eq_some_iff.mp here with ⟨next, nextHere, later⟩
      exact inductionHypothesis (apart.inner next (List.mem_of_getElem? nextHere)) later

/-! ## References that are visited -/

/-- Somewhere inside a spot the visitor walks through the unit that a reference belongs to, in a
scope with some frames and in some context. -/
def Visitor.Visits (visitor : Visitor σ) (spot result : Spot) (frames : List Frame)
    (context : Context) (ref : Expr) : Prop :=
  ∃ (scope : Scope) (path : List Nat) (unit newUnit : Expr) (own : σ) (after : Traversal σ),
    scope.frames = frames ∧ ref ∈ unit.references ∧ (unit = ref ∨ unit.isUnit = true) ∧
      spot.at? path = some (.expr scope context unit) ∧
        result.at? path = some (.expr scope context newUnit) ∧
          Gives (walkExpr visitor context unit) ⟨scope, own⟩ newUnit after

/-- A reference is walked through by visiting it. -/
theorem walkExpr_of_isColumn {ref : Expr} (isColumn : ref.isColumn = true) :
    walkExpr visitor context ref = visitor.reference context ref := by
  cases ref with
  | identifier ident => rw [walkExpr]
  | compound parts => rw [walkExpr]
  | _ => cases isColumn

/-- What an attentive visitor makes of a unit: it visits every reference in it, in the scope of
the unit, and what comes of the reference is in the result; or it replaces the whole of an
operation. -/
theorem Visitor.Attentive.visits_or_replaces (attentive : visitor.Attentive)
    {unit newUnit ref : Expr} {before after : Traversal σ} (member : ref ∈ unit.references)
    (whole : unit = ref ∨ unit.isUnit = true)
    (run : Gives (walkExpr visitor context unit) before newUnit after) :
    (∃ start result last, start.scope = before.scope ∧
      Gives (visitor.reference context ref) start result last ∧
        ∀ found ∈ result.references, found ∈ newUnit.references) ∨
      (∃ left operator right last, unit = .binary left operator right ∧
        Gives (visitor.operation left operator right context) before (some newUnit) last) ∨
        ∃ operand negated items replacement last, unit = .inList operand negated items ∧
          newUnit = .inList replacement.1 negated replacement.2 ∧
            Gives (visitor.membership operand items context) before (some replacement) last := by
  have isColumn := unit.isColumn_of_mem_references ref member
  rcases whole with rfl | isUnit
  · rw [walkExpr_of_isColumn isColumn] at run
    exact .inl ⟨before, newUnit, after, rfl, run, fun _ found => found⟩
  · cases unit with
    | binary left operator right =>
        rcases Bool.and_eq_true_iff.mp isUnit with ⟨leftOperand, rightOperand⟩
        rw [walkExpr, gives_bind_iff] at run
        rcases run with ⟨found, middle, operated, run⟩
        cases found with
        | some replacement =>
            rcases gives_pure_iff.mp run with ⟨rfl, -⟩
            exact .inr (.inl ⟨left, operator, right, middle, rfl, operated⟩)
        | none =>
            have kept : middle.scope = before.scope :=
              (attentive.tame.operation left operator right context
                (Operation.harmless_of_unmarked _) operated).1
            simp only [gives_bind_iff, gives_pure_iff] at run
            rcases run with ⟨newLeft, between, leftRun, newRight, last, rightRun, rfl, rfl⟩
            refine .inl ?_
            rcases List.mem_append.mp member with first | second
            · rcases Expr.eq_of_mem_references leftOperand first with rfl
              rw [walkExpr_of_isColumn isColumn] at leftRun
              exact ⟨middle, newLeft, between, kept, leftRun,
                fun _ found => List.mem_append_left _ found⟩
            · have stays := (attentive.expr context left rfl leftRun).1
              rcases Expr.eq_of_mem_references rightOperand second with rfl
              rw [walkExpr_of_isColumn isColumn] at rightRun
              exact ⟨between, newRight, _, stays.trans kept, rightRun,
                fun _ found => List.mem_append_right _ found⟩
    | inList operand negated items =>
        rcases Bool.and_eq_true_iff.mp isUnit with ⟨operandColumn, literals⟩
        rw [Expr.references, Expr.referencesAll_of_literals literals, List.append_nil,
          Expr.references_of_isColumn operandColumn] at member
        rcases List.mem_singleton.mp member with rfl
        rw [walkExpr, gives_bind_iff] at run
        rcases run with ⟨found, middle, tested, run⟩
        cases found with
        | some replacement =>
            rcases gives_pure_iff.mp run with ⟨rfl, -⟩
            exact .inr (.inr ⟨ref, negated, items, replacement, middle, rfl, rfl, tested⟩)
        | none =>
            have kept : middle.scope = before.scope :=
              (attentive.tame.membership ref items context tested).1
            simp only [gives_bind_iff, gives_pure_iff] at run
            rcases run with ⟨newOperand, between, operandRun, newItems, last, itemsRun, rfl, rfl⟩
            rw [walkExpr_of_isColumn isColumn] at operandRun
            exact .inl ⟨middle, newOperand, between, kept, operandRun,
              fun _ found => List.mem_append_left _ found⟩
    | _ => cases isUnit

/-- What is visited inside a spot is visited inside the one around it. -/
theorem Visitor.Visits.of_inner {spot result next newNext : Spot} {step : Nat}
    {frames : List Frame} {ref : Expr} (here : spot.inner[step]? = some next)
    (newHere : result.inner[step]? = some newNext)
    (visits : visitor.Visits next newNext frames context ref) :
    visitor.Visits spot result frames context ref := by
  rcases visits with ⟨scope, path, unit, newUnit, own, after, same, member, whole, place, newPlace,
    run⟩
  exact ⟨scope, step :: path, unit, newUnit, own, after, same, member, whole,
    Spot.at?_cons_eq_some_iff.mpr ⟨next, here, place⟩,
    Spot.at?_cons_eq_some_iff.mpr ⟨newNext, newHere, newPlace⟩, run⟩

namespace Visitor.Attentive

/-- Where an attentive visitor meets an expression, it visits the references in it. -/
theorem visits_expr (attentive : visitor.Attentive) {expr ref : Expr} {result : Spot}
    (meets : visitor.Meets (.expr scope context expr) result) (member : ref ∈ expr.references) :
    visitor.Visits (.expr scope context expr) result scope.frames context ref := by
  have addresses : expr.Addresses scope context ref := expr.addresses ref member
  rcases addresses with ⟨path, unit, place, holds, whole⟩
  rcases meets.at? attentive place with ⟨newFound, newPlace, met⟩
  cases met with
  | expr run => exact ⟨scope, path, unit, _, _, _, rfl, holds, whole, place, newPlace, run⟩

/-- Where an attentive visitor meets a query, it visits the references of its clauses among the
relations of the query. -/
theorem visits_query (attentive : visitor.Attentive) {query : Query} {result : Spot}
    (meets : visitor.Meets (.query scope reaches query) result) {clause : Clause}
    {expr ref : Expr} (stands : (clause, expr) ∈ query.clauses reaches)
    (member : ref ∈ expr.references) :
    visitor.Visits (.query scope reaches query) result (⟨query.names, reaches⟩ :: scope.frames)
      clause.context ref := by
  rcases query.stands scope _ stands with ⟨inner, frames, inside⟩
  rcases List.mem_iff_getElem?.mp inside with ⟨step, here⟩
  rcases exists_getElem?_of_forall₂ (meets.inner attentive) here with ⟨newNext, newHere, met⟩
  rw [← frames]
  exact (attentive.visits_expr met member).of_inner here newHere

end Visitor.Attentive

end ColumnVeil
