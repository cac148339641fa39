import ColumnVeil.Proofs.Shield.Index

/-!
# Searches through a blind index

A condition that compares indexed columns with literals is put to the shadows of the
columns.  The client asks about the values that it knows, the server answers about the
digests that it stores; as long as the digests of different values differ, the two agree on
every row, NULL included.

The proof has two halves.  `rewritten_of_gives` says what an accepted condition becomes,
by induction on the condition.  `Rewritten.truth_eq` compares the truth of the two, by
induction on that relation, so that it never looks at a walk.
-/

namespace ColumnVeil

open Sql

namespace IndexShadow

variable {catalog : Catalog} {scope : Scope} {before after : Traversal Unit}

/-! ## Indexed references -/

/-- The rule and the index of the column that a condition refers to. -/
def indexOf? (catalog : Catalog) (scope : Scope) (expr : Expr) :
    Option (ColumnRule × BlindIndex) :=
  match scope.resolve expr .plain with
  | .ok (some column) => do
      let rule ← catalog.ruleOf? column
      return (rule, ← rule.blindIndex)
  | _ => none

/-! ## What a condition becomes -/

/--
What becomes of a column and the constants that it is compared with.  An indexed
column makes way for its shadow and the constants for their digests; another column stays
with its constants.
-/
inductive Sought (catalog : Catalog) (scope : Scope) (column : Expr) (constants : List Expr) :
    Expr → List Expr → Prop where
  | indexed {rule : ColumnRule} {index : BlindIndex} {values : List Expr} :
      indexOf? catalog scope column = some (rule, index) →
        Digested rule index constants values →
          Sought catalog scope column constants (column.renamed index.column) values
  | other :
      indexOf? catalog scope column = none → Sought catalog scope column constants column constants

/-- What becomes of a condition: the same condition with every comparison rewritten. -/
inductive Rewritten (catalog : Catalog) (scope : Scope) : Expr → Expr → Prop where
  | connective {left right newLeft newRight : Expr} {operator : BinaryOperator} :
      operator = .and ∨ operator = .or →
        Rewritten catalog scope left newLeft → Rewritten catalog scope right newRight →
          Rewritten catalog scope (.binary left operator right)
            (.binary newLeft operator newRight)
  | negation {inner newInner : Expr} :
      Rewritten catalog scope inner newInner →
        Rewritten catalog scope (.unary .not inner) (.unary .not newInner)
  | nested {inner newInner : Expr} :
      Rewritten catalog scope inner newInner →
        Rewritten catalog scope (.nested inner) (.nested newInner)
  | comparison {column constant newColumn newConstant left right newLeft newRight : Expr}
      {operator : BinaryOperator} {sides : Expr.Sides} :
      operator = .equal ∨ operator = .notEqual → column.isColumn = true →
        constant.literal?.isSome = true →
          sides.operands column constant = (left, right) →
            sides.operands newColumn newConstant = (newLeft, newRight) →
              Sought catalog scope column [constant] newColumn [newConstant] →
                Rewritten catalog scope (.binary left operator right)
                  (.binary newLeft operator newRight)
  | membership {column newColumn : Expr} {negated : Bool} {items newItems : List Expr} :
      Sought catalog scope column items newColumn newItems →
        Rewritten catalog scope (.inList column negated items) (.inList newColumn negated newItems)

/-! ## What the visitor does -/

/-- A connective is walked through. -/
theorem not_replaced_of_connective {left right : Expr} {operator : BinaryOperator}
    (connective : operator = .and ∨ operator = .or) {found : Option Expr}
    (run : Gives (operation catalog left operator right .plain) before found after) :
    found = none ∧ before = after := by
  rcases connective with rfl | rfl <;>
  · rcases gives_pure_iff.mp run with ⟨rfl, rfl⟩
    exact ⟨rfl, rfl⟩

/-- A reference to a column without an index stays as it is. -/
theorem walkExpr_column {column result : Expr} (isColumn : column.isColumn = true)
    (other : indexOf? catalog before.scope column = none)
    (run : Gives (walkExpr (visitor catalog) .plain column) before result after) :
    column = result ∧ before = after := by
  have visited : Gives ((visitor catalog).reference .plain column) before result after := by
    cases column with
    | identifier ident =>
        rw [walkExpr] at run
        exact run
    | compound parts =>
        rw [walkExpr] at run
        exact run
    | _ => cases isColumn
  rcases Visitor.gives_reference_iff.mp visited with unresolved | ⟨found, resolved, visit⟩
  · exact unresolved.2
  · have plain : (catalog.ruleOf? found).bind ColumnRule.blindIndex = none := by
      rw [indexOf?, resolved] at other
      cases ruled : catalog.ruleOf? found with
      | none =>
          rfl
      | some rule =>
          cases indexed : rule.blindIndex with
          | none =>
              exact indexed
          | some index =>
              simp [ruled, indexed] at other
    simp only [visitor, IndexShadow.column, plain] at visit
    exact gives_pure_iff.mp visit

/-- A membership test in a list of literals is rewritten if its column is indexed. -/
theorem sought_of_membership {column : Expr} {items : List Expr}
    (isColumn : column.isColumn = true)
    (literals : ∀ item ∈ items, item.literal?.isSome = true)
    {found : Option (Expr × List Expr)}
    (run : Gives (membership catalog column items .plain) before found after) :
    before = after ∧
      ((found = none ∧ indexOf? catalog before.scope column = none) ∨
        ∃ newColumn newItems,
          found = some (newColumn, newItems) ∧
            Sought catalog before.scope column items newColumn newItems) := by
  rcases tested_of_gives run with ⟨rfl, tested⟩
  refine ⟨rfl, ?_⟩
  -- In a plain clause, `indexIn?` is `indexOf?`.
  cases tested with
  | listed known digested =>
      exact Or.inr ⟨_, _, rfl, Sought.indexed known digested⟩
  | walked other =>
      exact Or.inl ⟨rfl, other isColumn literals⟩

section Operands

variable {column constant left right : Expr} {sides : Expr.Sides}

/-- A comparison of a column with a literal is rewritten if the column is indexed. -/
theorem sought_of_operation {operator : BinaryOperator}
    (compares : operator = .equal ∨ operator = .notEqual) (isColumn : column.isColumn = true)
    (literal : constant.literal?.isSome = true)
    (placed : sides.operands column constant = (left, right)) {found : Option Expr}
    (run : Gives (operation catalog left operator right .plain) before found after) :
    before = after ∧
      ((found = none ∧ indexOf? catalog before.scope column = none) ∨
        ∃ newColumn newConstant newLeft newRight,
          sides.operands newColumn newConstant = (newLeft, newRight) ∧
            found = some (.binary newLeft operator newRight) ∧
              Sought catalog before.scope column [constant] newColumn [newConstant]) := by
  rcases operated_of_gives run with ⟨rfl, operated⟩
  refine ⟨rfl, ?_⟩
  cases operated with
  | joined _ _ paired =>
      exact absurd paired (not_paired_of_literal (Expr.literal_of_operands literal placed))
  | compared _ isLiteral found known digested newPlaced =>
      rcases Expr.operands_unique isColumn literal placed (isColumn_of_indexIn? known) isLiteral
        found with ⟨rfl, rfl, rfl⟩
      exact Or.inr ⟨_, _, _, _, newPlaced, rfl, Sought.indexed known digested⟩
  | walked _ other =>
      exact Or.inl ⟨rfl, other column constant sides compares isColumn literal placed⟩

theorem walkExpr_operands (isColumn : column.isColumn = true)
    (literal : constant.literal?.isSome = true)
    (placed : sides.operands column constant = (left, right))
    (other : indexOf? catalog before.scope column = none)
    {middle : Traversal Unit} {newLeft newRight : Expr}
    (leftRun : Gives (walkExpr (visitor catalog) .plain left) before newLeft middle)
    (rightRun : Gives (walkExpr (visitor catalog) .plain right) middle newRight after) :
    left = newLeft ∧ right = newRight ∧ before = after := by
  cases sides with
  | columnFirst =>
      cases placed
      rcases walkExpr_column isColumn other leftRun with ⟨rfl, rfl⟩
      rcases walkExpr_literal _ literal rightRun with ⟨rfl, rfl⟩
      exact ⟨rfl, rfl, rfl⟩
  | literalFirst =>
      cases placed
      rcases walkExpr_literal _ literal leftRun with ⟨rfl, rfl⟩
      rcases walkExpr_column isColumn other rightRun with ⟨rfl, rfl⟩
      exact ⟨rfl, rfl, rfl⟩

end Operands

/-! ## The walk through a condition -/

/-- An accepted condition is rewritten comparison by comparison. -/
theorem rewritten_of_gives {condition result : Expr} (isCondition : condition.IsCondition)
    (run : Gives (walkExpr (visitor catalog) .plain condition) before result after) :
    before = after ∧ Rewritten catalog before.scope condition result := by
  induction isCondition generalizing before result after with
  | connective connects leftCondition rightCondition leftHypothesis rightHypothesis =>
      rw [walkExpr, gives_bind_iff] at run
      rcases run with ⟨found, middle, operated, run⟩
      rcases not_replaced_of_connective connects operated with ⟨rfl, rfl⟩
      simp only [gives_bind_iff, gives_pure_iff] at run
      rcases run with ⟨newLeft, middle, leftRun, newRight, last, rightRun, rfl, rfl⟩
      rcases leftHypothesis leftRun with ⟨rfl, left⟩
      rcases rightHypothesis rightRun with ⟨rfl, right⟩
      exact ⟨rfl, Rewritten.connective connects left right⟩
  | negation innerCondition innerHypothesis =>
      simp only [walkExpr, gives_bind_iff, gives_pure_iff] at run
      rcases run with ⟨newInner, last, innerRun, rfl, rfl⟩
      rcases innerHypothesis innerRun with ⟨rfl, inner⟩
      exact ⟨rfl, Rewritten.negation inner⟩
  | nested innerCondition innerHypothesis =>
      simp only [walkExpr, gives_bind_iff, gives_pure_iff] at run
      rcases run with ⟨newInner, last, innerRun, rfl, rfl⟩
      rcases innerHypothesis innerRun with ⟨rfl, inner⟩
      exact ⟨rfl, Rewritten.nested inner⟩
  | comparison compares isColumn literal placed =>
      rw [walkExpr, gives_bind_iff] at run
      rcases run with ⟨found, middle, operated, run⟩
      rcases sought_of_operation compares isColumn literal placed operated with
        ⟨rfl, ⟨rfl, other⟩ | ⟨_, _, newLeft, newRight, newPlaced, rfl, sought⟩⟩
      · -- The comparison is not replaced, and the walk through its sides changes nothing.
        simp only [gives_bind_iff, gives_pure_iff] at run
        rcases run with ⟨newLeft, middle, leftRun, newRight, last, rightRun, rfl, rfl⟩
        rcases walkExpr_operands isColumn literal placed other leftRun rightRun with
          ⟨rfl, rfl, rfl⟩
        exact ⟨rfl, Rewritten.comparison compares isColumn literal placed placed
          (Sought.other other)⟩
      · rcases gives_pure_iff.mp run with ⟨rfl, rfl⟩
        exact ⟨rfl, Rewritten.comparison compares isColumn literal placed newPlaced sought⟩
  | membership isColumn literals =>
      rw [walkExpr, gives_bind_iff] at run
      rcases run with ⟨found, middle, tested, run⟩
      rcases sought_of_membership isColumn literals tested with
        ⟨rfl, ⟨rfl, other⟩ | ⟨newColumn, newItems, rfl, sought⟩⟩
      · simp only [gives_bind_iff, gives_pure_iff] at run
        rcases run with ⟨newColumn, middle, columnRun, newItems, last, itemsRun, rfl, rfl⟩
        rcases walkExpr_column isColumn other columnRun with ⟨rfl, rfl⟩
        rcases walkExprs_literals _ literals itemsRun with ⟨rfl, rfl⟩
        exact ⟨rfl, Rewritten.membership (Sought.other other)⟩
      · rcases gives_pure_iff.mp run with ⟨rfl, rfl⟩
        exact ⟨rfl, Rewritten.membership sought⟩

/-! ## Two views of a row -/

/--
How the row of the server mirrors the row of the client where a condition looks
at a column.  Beside an indexed value stands its keyed digest, or NULL beside NULL; other
columns hold what the client knows.
-/
structure Mirrors (catalog : Catalog) (scope : Scope) (client server : Reference → Option Cell)
    (column : Expr) : Prop where
  indexed : ∀ rule index reference,
    indexOf? catalog scope column = some (rule, index) → column.reference? = some reference →
      ∃ value : Option Bytes,
        client reference = value.map .bytes ∧
          server (reference.beside index.column) =
            value.map fun bytes => .bytes (Crypto.Sha256.hmac index.key bytes)
  other : ∀ reference,
    indexOf? catalog scope column = none → column.reference? = some reference →
      server reference = client reference

/-- A value of an indexed column has the digest of a literal only if it equals the literal. -/
def CollisionFree (catalog : Catalog) (scope : Scope) (client : Reference → Option Cell)
    (column : Expr) (literal : Literal) : Prop :=
  ∀ rule index reference value plaintext,
    indexOf? catalog scope column = some (rule, index) → column.reference? = some reference →
      client reference = some (.bytes value) → rule.plaintext literal = .ok (some plaintext) →
        Crypto.Sha256.hmac index.key value = Crypto.Sha256.hmac index.key plaintext →
          value = plaintext

/--
The client's test for equality in a row.  The value of an indexed column equals
the literals that are encoded as it is.
-/
def equalsPlain (catalog : Catalog) (scope : Scope) (client : Reference → Option Cell)
    (column : Expr) (literal : Literal) : Truth :=
  match indexOf? catalog scope column with
  | none => equalsIn client column literal
  | some (rule, _) =>
      match column.reference?.bind client, rule.plaintext literal with
      | some (.bytes value), .ok (some plaintext) => some (value == plaintext)
      | _, _ => none

section Truth

variable {client server : Reference → Option Cell}

/-- A digest equals the digest of a literal where the value equals the literal. -/
theorem equalsIn_shadow {column value : Expr} {rule : ColumnRule} {index : BlindIndex}
    {literal : Literal} (indexed : indexOf? catalog scope column = some (rule, index))
    (stored : Stored rule (Digests index) literal value)
    (mirrors : Mirrors catalog scope client server column)
    (apart : CollisionFree catalog scope client column literal) :
    value.literal?.map (equalsIn server (column.renamed index.column)) =
      some (equalsPlain catalog scope client column literal) := by
  cases stored with
  | null =>
      simp [Expr.null, Expr.literal?, Value.literal?, equalsIn, Cell.equals, equalsPlain,
        indexed, ColumnRule.plaintext]
  | bytes encoded digests =>
      subst digests
      simp only [Expr.ofBytes, Expr.literal?, Value.literal?, Option.map_some, equalsIn,
        equalsPlain, indexed, encoded, Expr.reference?_renamed, Option.some.injEq]
      cases referred : column.reference? with
      | none =>
          rfl
      | some reference =>
          rcases mirrors.indexed rule index reference indexed referred with
            ⟨value, known, shadow⟩
          cases value with
          | none =>
              simp [known, shadow]
          | some bytes =>
              have same := apart rule index reference bytes _ indexed referred known encoded
              simp only [Option.map_some, Option.bind_some, known, shadow, Cell.equals,
                Literal.bytes?_encode, Option.some.injEq]
              rw [Bool.eq_iff_iff, beq_iff_eq, beq_iff_eq]
              exact ⟨same, congrArg _⟩

theorem equalsIn_other {column : Expr} (other : indexOf? catalog scope column = none)
    (mirrors : Mirrors catalog scope client server column) (literal : Literal) :
    equalsIn server column literal = equalsPlain catalog scope client column literal := by
  simp only [equalsPlain, other, equalsIn]
  cases referred : column.reference? with
  | none =>
      rfl
  | some reference =>
      rw [Option.bind_some, Option.bind_some, mirrors.other reference other referred]

/-- The constants of a comparison are answered by the server as by the client. -/
theorem Sought.answers {column newColumn : Expr} {constants newConstants : List Expr}
    (sought : Sought catalog scope column constants newColumn newConstants)
    (mirrors : ∀ constant ∈ constants, ∀ literal, constant.literal? = some literal →
      Mirrors catalog scope client server column ∧
        CollisionFree catalog scope client column literal) :
    List.Forall₂
      (fun constant newConstant =>
        newConstant.literal?.map (equalsIn server newColumn) =
          constant.literal?.map (equalsPlain catalog scope client column))
      constants newConstants := by
  cases sought with
  | indexed indexed digested =>
      have all := (List.forall₂_and_left _ _).mpr ⟨mirrors, digested⟩
      refine all.imp ?_
      rintro constant value ⟨seen, literal, written, stored⟩
      rcases seen literal written with ⟨mirrored, apart⟩
      rw [equalsIn_shadow indexed stored mirrored apart, written, Option.map_some]
  | other other =>
      refine List.forall₂_same.mpr ?_
      intro constant member
      cases written : constant.literal? with
      | none =>
          rfl
      | some literal =>
          have mirrored := (mirrors constant member literal written).1
          rw [Option.map_some, Option.map_some, equalsIn_other other mirrored]

/-- A comparison with one literal stays one, and is answered as before. -/
theorem Sought.answer {column newColumn constant newConstant : Expr} {literal : Literal}
    (sought : Sought catalog scope column [constant] newColumn [newConstant])
    (isColumn : column.isColumn = true) (written : constant.literal? = some literal)
    (mirrors : Mirrors catalog scope client server column)
    (apart : CollisionFree catalog scope client column literal) :
    newColumn.isColumn = true ∧
      ∃ newLiteral,
        newConstant.literal? = some newLiteral ∧
          equalsIn server newColumn newLiteral =
            equalsPlain catalog scope client column literal := by
  have seen : ∀ found ∈ [constant], ∀ other, found.literal? = some other →
      Mirrors catalog scope client server column ∧
        CollisionFree catalog scope client column other := by
    intro found member other writes
    rw [List.mem_singleton.mp member, written] at writes
    cases writes
    exact ⟨mirrors, apart⟩
  refine ⟨?_, ?_⟩
  · cases sought with
    | indexed indexed digested =>
        rw [Expr.isColumn_renamed]
        exact isColumn
    | other other =>
        exact isColumn
  · cases sought.answers seen with
    | cons answered none =>
        rw [written, Option.map_some] at answered
        exact Option.map_eq_some_iff.mp answered

theorem filterMap_eq_of_forall₂ {α β γ : Type} {first : α → Option γ} {second : β → Option γ}
    {items : List α} {results : List β}
    (all : List.Forall₂ (fun item result => second result = first item) items results) :
    results.filterMap second = items.filterMap first := by
  induction all with
  | nil =>
      rfl
  | cons same others inductionHypothesis =>
      rw [List.filterMap_cons, List.filterMap_cons, same, inductionHypothesis]

/-- A condition and what it becomes have the same truth in the two views of a row. -/
theorem Rewritten.truth_eq {condition result : Expr}
    (rewritten : Rewritten catalog scope condition result)
    (mirrors : ∀ comparison ∈ condition.comparisons,
      Mirrors catalog scope client server comparison.1 ∧
        CollisionFree catalog scope client comparison.1 comparison.2) :
    result.truth (equalsIn server) = condition.truth (equalsPlain catalog scope client) := by
  induction rewritten with
  | connective connects left right leftHypothesis rightHypothesis =>
      rw [Expr.comparisons_connective connects] at mirrors
      have leftSame := leftHypothesis fun comparison member =>
        mirrors comparison (List.mem_append_left _ member)
      have rightSame := rightHypothesis fun comparison member =>
        mirrors comparison (List.mem_append_right _ member)
      rcases connects with rfl | rfl <;>
      · rw [Expr.truth, Expr.truth, leftSame, rightSame]
  | negation inner innerHypothesis =>
      rw [Expr.truth, Expr.truth, innerHypothesis mirrors]
  | nested inner innerHypothesis =>
      rw [Expr.truth, Expr.truth, innerHypothesis mirrors]
  | comparison compares isColumn literal placed newPlaced sought =>
      rcases Option.isSome_iff_exists.mp literal with ⟨literal, written⟩
      have compared := Expr.comparand?_operands isColumn written placed
      rcases mirrors _ (Expr.mem_comparisons compares compared) with ⟨mirrored, apart⟩
      rcases sought.answer isColumn written mirrored apart with
        ⟨newIsColumn, newLiteral, newWritten, answered⟩
      have newCompared := Expr.comparand?_operands newIsColumn newWritten newPlaced
      rcases compares with rfl | rfl <;>
      · simp only [Expr.truth, compared, newCompared, Option.bind_some, answered]
  | @membership column newColumn negated items newItems sought =>
      have seen : ∀ item ∈ items, ∀ literal, item.literal? = some literal →
          Mirrors catalog scope client server column ∧
            CollisionFree catalog scope client column literal := by
        intro item member literal written
        refine mirrors (column, literal) (List.mem_filterMap.mpr ⟨item, member, ?_⟩)
        rw [written, Option.map_some]
      have answers :
          newItems.filterMap (fun item => item.literal?.map (equalsIn server newColumn)) =
            items.filterMap fun item =>
              item.literal?.map (equalsPlain catalog scope client column) :=
        filterMap_eq_of_forall₂ (sought.answers seen)
      simp only [Expr.truth, answers]

end Truth

/-! ## The meaning of a search -/

/--
An accepted condition means to the server what it meant to the client.  Each of
its comparisons of an indexed column asks the shadow for digests instead, the others stay
as they are, and in every row whose shadows hold the digests of its values the result has
the truth of the condition, as long as no value shares its digest with a literal that it is
compared with.
-/
theorem search_preserves_truth (catalog : Catalog) (condition result : Expr)
    (before after : Traversal Unit) (isCondition : condition.IsCondition)
    (accepted : Gives (walkExpr (visitor catalog) .plain condition) before result after) :
    Rewritten catalog before.scope condition result ∧
      ∀ client server : Reference → Option Cell,
        (∀ comparison ∈ condition.comparisons,
          Mirrors catalog before.scope client server comparison.1) →
        (∀ comparison ∈ condition.comparisons,
          CollisionFree catalog before.scope client comparison.1 comparison.2) →
        result.truth (equalsIn server) =
          condition.truth (equalsPlain catalog before.scope client) := by
  have rewritten := (rewritten_of_gives isCondition accepted).2
  refine ⟨rewritten, ?_⟩
  intro client server mirrors apart
  apply rewritten.truth_eq
  intro comparison member
  exact ⟨mirrors comparison member, apart comparison member⟩

/-- The condition `(name <> 'Bonn' AND NOT (7 = id)) OR name IN ('Ulm', NULL)`. -/
def citySearch : Expr :=
  .binary
    (.nested (.binary
      (.binary (.identifier ⟨"name", none⟩) .notEqual (.value (.string "Bonn")))
      .and
      (.unary .not (.nested
        (.binary (.value (.number "7" false)) .equal (.identifier ⟨"id", none⟩))))))
    .or
    (.inList (.identifier ⟨"name", none⟩) false [.value (.string "Ulm"), .null])

theorem isCondition_citySearch : citySearch.IsCondition := by
  apply Expr.IsCondition.connective (Or.inr rfl)
  · apply Expr.IsCondition.nested
    apply Expr.IsCondition.connective (Or.inl rfl)
    · exact Expr.IsCondition.comparison (Or.inr rfl) rfl rfl
        (rfl : Expr.Sides.columnFirst.operands _ _ = _)
    · apply Expr.IsCondition.negation
      apply Expr.IsCondition.nested
      exact Expr.IsCondition.comparison (Or.inl rfl) rfl rfl
        (rfl : Expr.Sides.literalFirst.operands _ _ = _)
  · exact Expr.IsCondition.membership rfl (by decide)

/-- A walk among the cities. -/
def amongCities : Traversal Unit :=
  { scope := { frames := [{ tables := [("cities", "cities")], returnsRows := true }] }, own := () }

/-- A city as the client knows it. -/
def knownCity (reference : Reference) : Option Cell :=
  if reference.column = "name" then some (.bytes (Text.utf8 "Ulm"))
  else if reference.column = "id" then some (.other fun literal => literal == .number "8")
  else none

/-- The same city as the server stores it. -/
def storedCity (reference : Reference) : Option Cell :=
  if reference.column = "name_bi" then
    some (.bytes (Crypto.Sha256.hmac (List.replicate 32 4) (Text.utf8 "Ulm")))
  else if reference.column = "id" then some (.other fun literal => literal == .number "8")
  else none

theorem mirrors_cityName :
    Mirrors citiesCatalog amongCities.scope knownCity storedCity (.identifier ⟨"name", none⟩) := by
  constructor
  · intro rule index reference indexed referred
    cases referred
    cases indexed
    exact ⟨some (Text.utf8 "Ulm"), rfl, rfl⟩
  · intro reference other
    cases other

theorem mirrors_cityId :
    Mirrors citiesCatalog amongCities.scope knownCity storedCity (.identifier ⟨"id", none⟩) := by
  constructor
  · intro rule index reference indexed
    cases indexed
  · intro reference other referred
    have named : reference.column = "id" := by
      cases referred
      rfl
    simp [storedCity, knownCity, named]

theorem cityDigests_differ :
    Crypto.Sha256.hmac (List.replicate 32 4) (Text.utf8 "Ulm") ≠
      Crypto.Sha256.hmac (List.replicate 32 4) (Text.utf8 "Bonn") := by
  decide +kernel

theorem collisionFree_cityName {literal : Literal}
    (member : literal ∈ [.string "Bonn", .string "Ulm", .null]) :
    CollisionFree citiesCatalog amongCities.scope knownCity (.identifier ⟨"name", none⟩)
      literal := by
  intro rule index reference value plaintext indexed referred known encoded same
  cases indexed
  cases referred
  cases known
  simp only [List.mem_cons, List.not_mem_nil, or_false] at member
  rcases member with rfl | rfl | rfl
  · cases encoded
    exact absurd same cityDigests_differ
  · cases encoded
    rfl
  · cases encoded

/-- The search is accepted, and the city is found through the digest of its name. -/
theorem citySearch_finds :
    ∃ result after,
      Gives (walkExpr (visitor citiesCatalog) .plain citySearch) amongCities result after ∧
        Rewritten citiesCatalog amongCities.scope citySearch result ∧
          result.truth (equalsIn storedCity) = some true := by
  have accepts : ∃ result after,
      Gives (walkExpr (visitor citiesCatalog) .plain citySearch) amongCities result after :=
    exists_gives_of_isOk rfl
  rcases accepts with ⟨result, after, accepted⟩
  rcases search_preserves_truth citiesCatalog citySearch result amongCities after
    isCondition_citySearch accepted with ⟨rewritten, preserves⟩
  refine ⟨result, after, accepted, rewritten, ?_⟩
  have comparisons : citySearch.comparisons =
      [(.identifier ⟨"name", none⟩, .string "Bonn"), (.identifier ⟨"id", none⟩, .number "7"),
        (.identifier ⟨"name", none⟩, .string "Ulm"), (.identifier ⟨"name", none⟩, .null)] := rfl
  rw [preserves knownCity storedCity]
  · decide +kernel
  · simp only [comparisons, List.mem_cons, List.not_mem_nil, or_false]
    rintro comparison (rfl | rfl | rfl | rfl)
    · exact mirrors_cityName
    · exact mirrors_cityId
    · exact mirrors_cityName
    · exact mirrors_cityName
  · simp only [comparisons, List.mem_cons, List.not_mem_nil, or_false]
    rintro comparison (rfl | rfl | rfl | rfl)
    · exact collisionFree_cityName (by simp)
    · intro rule index reference value plaintext indexed
      cases indexed
    · exact collisionFree_cityName (by simp)
    · exact collisionFree_cityName (by simp)

end IndexShadow

end ColumnVeil
