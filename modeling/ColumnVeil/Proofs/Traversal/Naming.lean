import ColumnVeil.Proofs.Traversal.Site
import ColumnVeil.Traversal.Walk

/-!
# Names of relations

A column is resolved to a table by the names that are in scope.  Names come into scope with the
relations of a query: tables by their own names, derived tables, parenthesized joins and table
functions by their aliases.  `relationNames` lists for every part of a statement the tables that
a walk through it can bring into scope, at any depth.

As long as every such table is allowed, every column that is resolved belongs to an allowed
table (`Scope.Within`).
-/

namespace ColumnVeil

namespace Sql

mutual

/-- The tables that an expression brings into scope, in the queries inside it.  What stands in a
construct that is not told apart brings nothing into scope. -/
def Expr.relationNames : Expr → List String
  | .identifier _ => []
  | .compound _ => []
  | .value _ => []
  | .binary left _ right => left.relationNames ++ right.relationNames
  | .unary _ operand => operand.relationNames
  | .nested inner => inner.relationNames
  | .nullTest operand _ => operand.relationNames
  | .inList operand _ items => operand.relationNames ++ Expr.relationNamesAll items
  | .inQuery operand _ body => operand.relationNames ++ body.relationNames
  | .between operand _ low high =>
      operand.relationNames ++ low.relationNames ++ high.relationNames
  | .like operand _ _ pattern _ => operand.relationNames ++ pattern.relationNames
  | .array _ elements => Expr.relationNamesAll elements
  | .subquery query => query.relationNames
  | .existence _ query => query.relationNames
  | .call .. => []
  | .form .. => []

def Expr.relationNamesAll : List Expr → List String
  | [] => []
  | expr :: rest => expr.relationNames ++ Expr.relationNamesAll rest

def Expr.relationNamesOption : Option Expr → List String
  | none => []
  | some expr => expr.relationNames

def Query.relationNames : Query → List String
  | .mk _ ctes body order _ =>
      Cte.relationNamesAll ctes ++ body.relationNames ++ OrderItem.relationNamesAll order

def Cte.relationNamesAll : List Cte → List String
  | [] => []
  | .mk _ _ query _ :: rest => query.relationNames ++ Cte.relationNamesAll rest

def OrderItem.relationNamesAll : List OrderItem → List String
  | [] => []
  | .mk expr _ :: rest => expr.relationNames ++ OrderItem.relationNamesAll rest

def QueryBody.relationNames : QueryBody → List String
  | .select select => select.relationNames
  | .parenthesized query => query.relationNames
  | .combination .. => []
  | .values _ rows => QueryBody.relationNamesOfRows rows
  | .table _ => []
  | .change _ => []

def QueryBody.relationNamesOfRows : List (List Expr) → List String
  | [] => []
  | row :: rest => Expr.relationNamesAll row ++ QueryBody.relationNamesOfRows rest

def Select.relationNames : Select → List String
  | .mk _ projection _ relations _ condition groups _ having _ =>
      TableWithJoins.relationNamesAll relations ++ SelectItem.relationNamesAll projection ++
        Expr.relationNamesOption condition ++ Expr.relationNamesAll groups ++
        Expr.relationNamesOption having

def SelectItem.relationNamesAll : List SelectItem → List String
  | [] => []
  | .expr expr :: rest => expr.relationNames ++ SelectItem.relationNamesAll rest
  | .aliased expr _ :: rest => expr.relationNames ++ SelectItem.relationNamesAll rest
  | .wildcard _ :: rest => SelectItem.relationNamesAll rest

def TableWithJoins.relationNames : TableWithJoins → List String
  | .mk relation joins => relation.relationNames ++ Join.relationNamesAll joins

def TableWithJoins.relationNamesAll : List TableWithJoins → List String
  | [] => []
  | tables :: rest => tables.relationNames ++ TableWithJoins.relationNamesAll rest

def Join.relationNamesAll : List Join → List String
  | [] => []
  | .mk _ relation _ constraint :: rest =>
      relation.relationNames ++ constraint.relationNames ++ Join.relationNamesAll rest

def JoinConstraint.relationNames : JoinConstraint → List String
  | .none => []
  | .on condition => condition.relationNames
  | .sharing _ => []
  | .natural => []

/-- A table is known by its own name, another relation by its alias. -/
def TableFactor.relationNames : TableFactor → List String
  | .table name _ _ _ => name.last?.toList
  | .derived _ query aliasName => query.relationNames ++ (aliasNames aliasName).map Prod.snd
  | .nestedJoin inner aliasName => inner.relationNames ++ (aliasNames aliasName).map Prod.snd
  | .function _ aliasName _ => (aliasNames aliasName).map Prod.snd

end

/-! ## Statements -/

/-- The tables that the values of assignments bring into scope. -/
def Assignment.relationNamesAll (assignments : List Assignment) : List String :=
  assignments.flatMap fun assignment => assignment.value.relationNames

def ConflictRule.relationNames : ConflictRule → List String
  | .assign _ assignments condition =>
      Assignment.relationNamesAll assignments ++ Expr.relationNamesOption condition
  | _ => []

/-- The tables that the items behind `RETURNING` bring into scope. -/
def SelectItem.relationNamesReturned (returning : Option (List SelectItem)) : List String :=
  SelectItem.relationNamesAll (returning.getD [])

def Insert.relationNames (insert : Insert) : List String :=
  insert.table.last?.toList ++ insert.source.toList.flatMap Query.relationNames ++
    insert.conflict.relationNames ++ SelectItem.relationNamesReturned insert.returning

def Update.relationNames (update : Update) : List String :=
  update.table.relationNames ++
    update.relations.toList.flatMap (fun further =>
      TableWithJoins.relationNamesAll further.2) ++
    Assignment.relationNamesAll update.assignments ++
    Expr.relationNamesOption update.condition ++
    SelectItem.relationNamesReturned update.returning

def Delete.relationNames (delete : Delete) : List String :=
  TableWithJoins.relationNamesAll delete.relations ++
    delete.further.toList.flatMap TableWithJoins.relationNamesAll ++
    Expr.relationNamesOption delete.condition ++
    SelectItem.relationNamesReturned delete.returning

/-- The tables that a statement brings into scope.  A statement that is not looked into has
every table that it names in scope. -/
def Statement.relationNames : Statement → List String
  | .query asked => asked.relationNames
  | .insert insertion => insertion.relationNames
  | .update change => change.relationNames
  | .delete deletion => deletion.relationNames
  | .explain _ explained => explained.relationNames
  | .definition _ => []
  | .utility parts => Part.tableNames parts

end Sql

open Sql

/-! ## Scopes -/

namespace Scope

/-- Every table in scope, and the table of every column that a statement shows, is allowed. -/
structure Within (allowed : String → Prop) (scope : Scope) : Prop where
  tables : ∀ table ∈ scope.tables, allowed table
  shown : ∀ results ∈ scope.earlier ++ scope.current.toList,
    ∀ output ∈ results.outputs, allowed output.2.table

variable {allowed : String → Prop} {scope : Scope}

theorem within_empty : Within allowed {} := by
  constructor
  · intro table member
    cases member
  · intro results member
    cases member

/-- Other frames matter only by their tables. -/
theorem Within.of_tables (within : scope.Within allowed) {frames : List Frame}
    (known : ∀ table ∈ { scope with frames }.tables, allowed table) :
    { scope with frames }.Within allowed :=
  ⟨known, within.shown⟩

theorem Within.push (within : scope.Within allowed) (returnsRows : Bool) :
    (scope.push returnsRows).Within allowed :=
  within.of_tables within.tables

theorem Within.pop (within : scope.Within allowed) : scope.pop.Within allowed := by
  apply within.of_tables
  intro table member
  apply within.tables
  simp only [Scope.tables, List.mem_flatMap] at member ⊢
  rcases member with ⟨frame, inside, member⟩
  exact ⟨frame, List.mem_of_mem_tail inside, member⟩

theorem Within.add (within : scope.Within allowed) (name : String) {table : String}
    (known : allowed table) : (scope.add name table).Within allowed := by
  unfold Scope.add
  split
  · exact within
  · rename_i frame rest frames
    apply within.of_tables
    intro other member
    simp only [Scope.tables, List.flatMap_cons, List.map_append, List.mem_append, List.map_cons,
      List.map_nil, List.mem_singleton] at member
    rcases member with (member | rfl) | member
    · apply within.tables
      simp [Scope.tables, frames, member]
    · exact known
    · apply within.tables
      simp only [Scope.tables, frames, List.flatMap_cons, List.mem_append]
      exact Or.inr member

theorem Within.beginStatement (within : scope.Within allowed) :
    scope.beginStatement.Within allowed := by
  constructor
  · intro table member
    cases member
  · intro results member
    simp only [Scope.beginStatement, Option.toList_some, List.mem_append,
      List.mem_singleton] at member
    rcases member with earlier | rfl
    · exact within.shown results (List.mem_append.mpr earlier)
    · intro output shown
      cases shown

theorem Within.register (within : scope.Within allowed) {name : String} {column : ColumnRef}
    (known : allowed column.table) {registered : Scope}
    (run : scope.register name column = .ok registered) : registered.Within allowed := by
  have current : ∀ output ∈ (scope.current.getD {}).outputs, allowed output.2.table := by
    cases found : scope.current with
    | none =>
        intro output member
        cases member
    | some results =>
        exact within.shown results (by simp [found])
  simp only [Scope.register, bind, Except.bind] at run
  split at run
  · cases run
  · rename_i results recorded
    cases run
    constructor
    · exact within.tables
    · intro other member output shown
      simp only [Option.toList_some, List.mem_append, List.mem_singleton] at member
      rcases member with earlier | rfl
      · exact within.shown other (List.mem_append_left _ earlier) output shown
      · simp only [ResultColumns.register] at recorded
        split at recorded
        · split at recorded
          · cases recorded
            exact current output shown
          · cases recorded
        · cases recorded
          rcases List.mem_cons.mp shown with rfl | before
          · exact known
          · exact current output before

/-- A column that the current statement shows belongs to an allowed table. -/
theorem Within.output (within : scope.Within allowed) {name : String} {column : ColumnRef}
    (found : scope.output? name = some column) : allowed column.table := by
  rcases Option.bind_eq_some_iff.mp found with ⟨results, current, lookup⟩
  rcases List.lookup_eq_some_iff.mp lookup with ⟨before, after, split, -⟩
  exact within.shown results (by simp [current]) (name, column) (by simp [split])

theorem Within.table (within : scope.Within allowed) {name table : String}
    (found : scope.table? name = some table) : allowed table := by
  rcases List.exists_of_findSome?_eq_some found with ⟨frame, member, lookup⟩
  rcases List.lookup_eq_some_iff.mp lookup with ⟨before, after, split, -⟩
  apply within.tables
  simp only [Scope.tables, List.mem_flatMap]
  exact ⟨frame, member, by simp [split]⟩

theorem Within.resolveIn (within : scope.Within allowed) {name : String} {column : ColumnRef}
    {frames : List Frame} (inside : ∀ frame ∈ frames, frame ∈ scope.frames)
    (found : scope.resolveIn name frames = .ok (some column)) : allowed column.table := by
  induction frames with
  | nil =>
      exact within.output (Except.ok.inj found)
  | cons frame rest inductionHypothesis =>
      simp only [Scope.resolveIn] at found
      split at found
      · exact inductionHypothesis (fun later member => inside later (List.mem_cons_of_mem _ member))
          found
      · rename_i reference table alone
        cases found
        apply within.tables
        simp only [Scope.tables, List.mem_flatMap]
        exact ⟨frame, inside frame List.mem_cons_self, by simp [alone]⟩
      · split at found
        · rename_i shown output
          cases found
          exact within.output output
        · cases found

/-- A column that a reference means belongs to an allowed table. -/
theorem Within.resolve (within : scope.Within allowed) {expr : Expr} {context : Context}
    {column : ColumnRef} (found : scope.resolve expr context = .ok (some column)) :
    allowed column.table := by
  unfold Scope.resolve at found
  split at found
  · simp only [resolveName] at found
    split at found
    · rename_i shown output
      cases found
      split at output
      · exact within.output output
      · cases output
    · exact within.resolveIn (fun _ member => member) found
  · split at found
    · split at found
      · rename_i table known
        cases found
        exact within.table known
      · cases found
    · cases found
  · cases found

end Scope

end ColumnVeil
