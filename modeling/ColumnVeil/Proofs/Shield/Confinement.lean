import ColumnVeil.Proofs.Traversal.Inspection
import ColumnVeil.Shield.Encryption

/-!
# Confinement of encrypted columns

The server can do nothing with the values of an encrypted column but store and return them.
The main statement says that the shield for encrypted columns lets a plain query through
only if every reference to such a column stands in the projection that the client receives,
outside all subqueries, and no star stands where a protected table is in scope; and that it
leaves the query as it is.
-/

namespace ColumnVeil

open Sql

/-- Whether the values of a column are encrypted. -/
def Catalog.encrypts (catalog : Catalog) (column : ColumnRef) : Bool :=
  (catalog.ruleOf? column).any fun rule => rule.encryptionKey.isSome

namespace Encryption

variable {catalog : Catalog}

/-- An encrypted column is let pass only in the client's projection. -/
theorem gives_column_iff {expr result : Expr} {column : ColumnRef} {context : Context}
    {before after : Traversal State} :
    Gives ((visitor catalog).column expr column context) before result after ↔
      (catalog.encrypts column = true → context.selectBody = true) ∧
        expr = result ∧ before = after := by
  simp only [visitor, ← Catalog.encrypts.eq_def]
  cases encrypted : catalog.encrypts column with
  | false =>
      simp
  | true =>
      cases inBody : context.selectBody <;> simp

/-- Something is refused exactly where a table in scope is protected. -/
theorem gives_refuseProtected_iff {failure : Failure} {before after : Traversal State}
    {result : Unit} :
    Gives (refuseProtected catalog failure) before result after ↔
      (∀ table ∈ before.scope.tables, catalog.isProtected table = false) ∧
        before = after := by
  simp only [refuseProtected, inProtectedScope, gives_bind_iff, Walk.gives_scope_iff,
    gives_pure_iff]
  constructor
  · rintro ⟨found, middle, ⟨scope, _, ⟨rfl, rfl⟩, rfl, rfl⟩, run⟩
    split at run
    · simp at run
    · rename_i unprotected
      have kept := (gives_pure_iff.mp run).2
      exact ⟨by simpa using unprotected, kept⟩
  · rintro ⟨unprotected, rfl⟩
    refine ⟨false, before, ⟨before.scope, before, ⟨rfl, rfl⟩, ?_, rfl⟩, ?_⟩
    · simpa using unprotected
    · simp

/-- The visitor for encrypted columns only ever refuses queries. -/
theorem visitor_inspects : (visitor catalog).Inspects where
  membership run := by
    have quiet := gives_pure_iff.mp run
    exact ⟨quiet.1.symm, quiet.2⟩
  operation run := by
    have quiet := gives_pure_iff.mp run
    exact ⟨quiet.1.symm, quiet.2⟩
  column run := (gives_column_iff.mp run).2
  wildcard run := (gives_refuseProtected_iff.mp run).2

/-- A reference that passes means an encrypted column only where the client receives it. -/
theorem delivered_of_passes {scope : Scope} {clause : Clause} {expr : Expr}
    {column : ColumnRef}
    (passes : (visitor catalog).Passes (.reference scope clause expr))
    (resolved : scope.resolve expr clause.context = .ok (some column))
    (encrypted : catalog.encrypts column = true) :
    clause = .delivered := by
  rcases passes with ⟨own, result, after, run⟩
  rcases Visitor.gives_reference_iff.mp run with ⟨nothing, _⟩ | ⟨found, meant, visited⟩
  · rw [resolved] at nothing
    cases nothing
  · rw [resolved] at meant
    cases meant
    have inBody := (gives_column_iff.mp visited).1 encrypted
    cases clause with
    | delivered => rfl
    | projection => cases inBody
    | joining => cases inBody
    | condition => cases inBody
    | grouping => cases inBody
    | having => cases inBody
    | order => cases inBody

/-- A star that passes has no protected table in scope. -/
theorem unprotected_of_passes {scope : Scope}
    (passes : (visitor catalog).Passes (.star scope)) :
    ∀ table ∈ scope.tables, catalog.isProtected table = false := by
  rcases passes with ⟨own, result, after, run⟩
  exact (gives_refuseProtected_iff.mp run).1

/--
A text of plain queries that the shield accepts refers to encrypted columns only
in the projection that the client receives, has no star where a protected table
is in scope, and stays as it is.
-/
theorem protect_confines_encrypted_columns (catalog : Catalog)
    (statements : List Statement)
    (plain : ∀ statement ∈ statements, statement.isPlain = true)
    (before after : Traversal State) (result : List Statement)
    (accepted : Gives ((shield catalog).protect statements) before result after) :
    (∀ scope clause expr column,
        Site.reference scope clause expr ∈ Statement.sitesAll statements →
          scope.resolve expr clause.context = .ok (some column) →
            catalog.encrypts column = true → clause = .delivered) ∧
      (∀ scope,
        Site.star scope ∈ Statement.sitesAll statements →
          ∀ table ∈ scope.tables, catalog.isProtected table = false) ∧
        result = statements := by
  simp only [shield, gives_bind_iff, gives_modify_iff] at accepted
  rcases accepted with ⟨_, _, rfl, walked⟩
  rcases walkStatements_inspects visitor_inspects statements plain walked with
    ⟨rfl, passes⟩
  refine ⟨?_, ?_, rfl⟩
  · intro scope clause expr column site resolved encrypted
    exact delivered_of_passes (passes _ site) resolved encrypted
  · intro scope site
    exact unprotected_of_passes (passes _ site)

/-- A catalog in which the names of cities are encrypted. -/
def cityCatalog : Catalog :=
  Catalog.insert {} "cities" ((ColumnRule.plain "name" .text).encrypted (List.replicate 32 3))

/-- The state before the first statement, where the random bytes are all zero. -/
def freshState : Traversal State := { own := { entropy := { stream := fun _ => 0 } } }

/-- The names of regions: `SELECT r.name FROM regions r`. -/
def regionNames : Query :=
  .mk false []
    (.select (.mk [] [.expr (.compound [⟨"r", none⟩, ⟨"name", none⟩])] ""
      [.mk (.table [⟨"regions", none⟩] [] (some { name := ⟨"r", none⟩ }) []) []]
      [] none [] [] none []))
    [] []

/-- One city: `SELECT c.name, (…) FROM cities c WHERE c.id = 1 ORDER BY c.id`. -/
def cityNames : Query :=
  .mk false []
    (.select (.mk []
      [.expr (.compound [⟨"c", none⟩, ⟨"name", none⟩]), .expr (.subquery regionNames)] ""
      [.mk (.table [⟨"cities", none⟩] [] (some { name := ⟨"c", none⟩ }) []) []] []
      (some (.binary (.compound [⟨"c", none⟩, ⟨"id", none⟩]) .equal
        (.value (.number "1" false))))
      [] [] none []))
    [.mk (.compound [⟨"c", none⟩, ⟨"id", none⟩]) ""] []

/-- The query of one city is plain and accepted, so that it is confined. -/
theorem cityNames_confined :
    (∀ statement ∈ [Statement.query cityNames], statement.isPlain = true) ∧
      Gives ((shield cityCatalog).protect [.query cityNames]) freshState
        [.query cityNames]
        (((shield cityCatalog).protect [.query cityNames]).run.run freshState).2 ∧
      (∀ scope clause expr column,
        Site.reference scope clause expr ∈ Statement.sitesAll [.query cityNames] →
          scope.resolve expr clause.context = .ok (some column) →
            cityCatalog.encrypts column = true → clause = .delivered) := by
  have plain : ∀ statement ∈ [Statement.query cityNames], statement.isPlain = true := by
    decide
  have accepted : Gives ((shield cityCatalog).protect [.query cityNames]) freshState
      [.query cityNames]
      (((shield cityCatalog).protect [.query cityNames]).run.run freshState).2 := by
    refine Prod.ext ?_ rfl
    rfl
  exact ⟨plain, accepted,
    (protect_confines_encrypted_columns cityCatalog _ plain _ _ _ accepted).1⟩

end Encryption

end ColumnVeil
