import ColumnVeil.Proofs.Shield.Answer

/-!
# Rows of joined columns

A row of a result is kept or discarded by the pairs of columns that were remembered with its
query.  A pair is looked up by its columns: the positions that are compared are the first
ones whose output names stand for them.

In a row that is kept, the sides of every equality of joined columns that the query asserts
are the same, as far as those first positions show them.  A row in which the conditions of
the query hold is kept, if every equality of joined columns is one that they assert.
-/

namespace ColumnVeil

open Sql

/-- Where a step succeeds for every item, items and results go together. -/
theorem mem_of_mapM {α β : Type} {step : α → Option β} {items : List α} {results : List β}
    (all : items.mapM step = some results) :
    (∀ item ∈ items, ∃ result ∈ results, step item = some result) ∧
      ∀ result ∈ results, ∃ item ∈ items, step item = some result := by
  induction items generalizing results with
  | nil =>
      cases all
      exact ⟨by rintro _ ⟨⟩, by rintro _ ⟨⟩⟩
  | cons item rest inductionHypothesis =>
      simp only [List.mapM_cons, Option.bind_eq_bind, Option.bind_eq_some_iff, Option.pure_def,
        Option.some.injEq] at all
      rcases all with ⟨first, isFirst, others, areOthers, rfl⟩
      rcases inductionHypothesis areOthers with ⟨forwards, backwards⟩
      refine ⟨?_, ?_⟩
      · rw [List.forall_mem_cons]
        refine ⟨⟨first, List.mem_cons_self, isFirst⟩, fun item member => ?_⟩
        rcases forwards item member with ⟨result, among, found⟩
        exact ⟨result, List.mem_cons_of_mem _ among, found⟩
      · rw [List.forall_mem_cons]
        refine ⟨⟨item, List.mem_cons_self, isFirst⟩, fun result member => ?_⟩
        rcases backwards result member with ⟨item, among, found⟩
        exact ⟨item, List.mem_cons_of_mem _ among, found⟩

/-! ## Positions of columns -/

namespace Sql.Select

/-- The first place whose label is an output name of a column. -/
def place? (select : Select) (labels : List String) (column : ColumnRef) : Option Nat :=
  labels.findIdx? fun name => select.shown.output? name == some column

/-- An item of the projection shows a column under an output name. -/
def Names (select : Select) (name : String) (column : ColumnRef) : Prop :=
  ∃ item ∈ select.projection, ∃ expr aliasName,
    item.shown? = some (expr, aliasName) ∧
      select.entered.resolve expr .plain = .ok (some column) ∧
        Scope.outputName aliasName column = name

/-- A row has one value at a place and at all earlier places that stand for the same column. -/
def SameBefore (select : Select) (labels : List String) (row : Row) (column : ColumnRef)
    (place : Nat) : Prop :=
  ∀ earlier < place, ∀ name, labels[earlier]? = some name →
    select.shown.output? name = some column → row[earlier]?.join = row[place]?.join

/-- A row has a value wherever a label stands for a column. -/
def ShowsValue (select : Select) (labels : List String) (row : Row) (column : ColumnRef)
    (value : Option Bytes) : Prop :=
  ∀ (place : Nat) (name : String), labels[place]? = some name → select.shown.output? name = some column →
    row[place]?.join = value

variable {select : Select} {labels : List String} {column : ColumnRef} {place : Nat} {row : Row}

theorem label_of_place? (first : select.place? labels column = some place) :
    ∃ name, labels[place]? = some name ∧ select.shown.output? name = some column := by
  rcases List.findIdx?_eq_some_iff_getElem.mp first with ⟨inside, stands, -⟩
  exact ⟨labels[place], List.getElem?_eq_getElem inside, eq_of_beq stands⟩

/-- Where earlier places agree, the first place of a column has the value of any other. -/
theorem value_of_place? {first : Nat} {name : String}
    (found : select.place? labels column = some first) (label : labels[place]? = some name)
    (stands : select.shown.output? name = some column)
    (same : select.SameBefore labels row column place) : row[first]?.join = row[place]?.join := by
  rcases List.findIdx?_eq_some_iff_getElem.mp found with ⟨inside, -, earliest⟩
  rcases List.getElem?_eq_some_iff.mp label with ⟨placeInside, rfl⟩
  rcases Nat.lt_trichotomy first place with earlier | rfl | later
  · rcases label_of_place? found with ⟨firstName, firstLabel, firstStands⟩
    exact same first earlier firstName firstLabel firstStands
  · rfl
  · refine absurd ?_ (earliest place later)
    rw [stands]
    exact beq_self_eq_true _

end Sql.Select

/-! ## Rows that are compared -/

section Rows

variable {catalog : Catalog} {query : Query} {select : Select} {labels : List String}
  {action : RowAction} {row : Row}

theorem JoinShadow.Recalls.congr {index : Nat} {state other : Traversal JoinShadow.State}
    (recalls : JoinShadow.Recalls catalog query select index state)
    (scope : other.scope = state.scope) (pairs : other.own.pairs = state.own.pairs) :
    JoinShadow.Recalls catalog query select index other where
  results := by
    rw [scope]
    exact recalls.results
  asserted member paired := by
    rw [pairs]
    exact recalls.asserted member paired
  only harmless pair member := by
    rw [pairs] at member
    exact recalls.only harmless member

/--
The positions that are compared in a row: among them those of the equalities of
joined columns that the query asserts, and no others if its other operations are harmless.
-/
structure Compares (catalog : Catalog) (query : Query) (select : Select) (labels : List String)
    (active : List (Nat × Nat)) : Prop where
  asserted : ∀ {left right pair}, (left, right) ∈ select.equated →
    JoinShadow.Paired catalog select.shown .plain left right pair →
      ∃ places ∈ active, select.place? labels pair.1 = some places.1 ∧
        select.place? labels pair.2 = some places.2
  only : Harmless catalog.marks (query.buried select) → ∀ {places}, places ∈ active →
    ∃ sides ∈ select.equated, ∃ pair,
      JoinShadow.Paired catalog select.shown .plain sides.1 sides.2 pair ∧
        select.place? labels pair.1 = some places.1 ∧ select.place? labels pair.2 = some places.2
  names : ∀ {name column}, select.Names name column → select.shown.output? name = some column

/-- A row is discarded if it differs at positions that are compared. -/
theorem exists_compares (inspects : catalog.Inspects query select labels action row) :
    ∃ active, Compares catalog query select labels active ∧
      action = if active.any (JoinShadow.differs row) then .discard else .keep := by
  rcases inspects with ⟨accepted, found, selection, describes, inspects⟩
  rename_i statements sent index before asked described last answers columns shown rows returned
  rcases @keeps_receiveAll catalog asked answers with ⟨scope, pairs⟩
  have recalls := (recalls_of_gives_chain found selection accepted).congr scope pairs
  have compared := compared?_of_gives describes
  rcases select.exists_current_shown with ⟨results, current⟩
  have output (name : String) : select.shown.output? name = results.column? name := by
    rw [Scope.output?, current, Option.bind_some]
  rw [JoinShadow.compared?, recalls.results, current] at compared
  have places {pair : ColumnRef × ColumnRef} {places : Nat × Nat} :
      JoinShadow.positions? results (shown.map Wire.Column.label) pair.1 pair.2 = some places ↔
        select.place? (shown.map Wire.Column.label) pair.1 = some places.1 ∧
          select.place? (shown.map Wire.Column.label) pair.2 = some places.2 := by
    simp only [positions?_eq_some_iff, Select.place?, output]
  refine ⟨described.2.1.own.active, ⟨?_, ?_, ?_⟩, ?_⟩
  · intro left right pair member paired
    have remembered := JoinShadow.mem_pairsOf_iff.mpr (recalls.asserted member paired)
    rcases (mem_of_mapM compared).1 pair remembered with ⟨active, isActive, found⟩
    exact ⟨active, isActive, places.mp found⟩
  · intro harmless active member
    rcases (mem_of_mapM compared).2 active member with ⟨pair, inPairs, found⟩
    rcases recalls.only harmless (JoinShadow.mem_pairsOf_iff.mp inPairs) with
      ⟨sides, inEquated, paired⟩
    exact ⟨sides, inEquated, pair, paired, places.mp found⟩
  · rintro name column ⟨item, member, expr, aliasName, shows, resolved, rfl⟩
    exact output?_of_gives_chain found selection accepted member shows resolved
  · rw [receiveAll_rows, Gives, run_inspect_chain] at inspects
    cases opened : Encryption.decryptRow described.2.2.own.results returned with
    | error failure =>
        rw [opened] at inspects
        cases inspects
    | ok decrypted =>
        rw [opened] at inspects
        cases inspects
        rfl

theorem differs_eq_false_iff {places : Nat × Nat} :
    JoinShadow.differs row places = false ↔
      ∀ {left right}, row[places.1]?.join = some left → row[places.2]?.join = some right →
        left = right := by
  unfold JoinShadow.differs
  split
  · rename_i leftValue rightValue first second
    rw [bne_eq_false_iff_eq]
    constructor
    · rintro rfl left right isLeft isRight
      rw [first] at isLeft
      rw [second] at isRight
      cases isLeft
      cases isRight
      rfl
    · intro same
      exact same first second
  · rename_i missing
    refine ⟨fun _ left right isLeft isRight => ?_, fun _ => rfl⟩
    exact absurd isRight (missing left right isLeft)

/--
In a row that is kept, the sides of an equality of joined columns that the query
asserts are equal or NULL, wherever they are shown.  Here each side is looked for at any place
under a name that the projection gives to its column, as long as no earlier place under such
a name has another value.
-/
theorem kept_rows_match {left right : Expr} {pair : ColumnRef × ColumnRef}
    {leftName rightName : String} {leftPlace rightPlace : Nat} {leftValue rightValue : Bytes}
    (inspects : catalog.Inspects query select labels .keep row)
    (asserted : (left, right) ∈ select.equated)
    (joined : JoinShadow.Paired catalog select.entered .plain left right pair)
    (leftNamed : select.Names leftName pair.1) (rightNamed : select.Names rightName pair.2)
    (leftLabel : labels[leftPlace]? = some leftName)
    (rightLabel : labels[rightPlace]? = some rightName)
    (leftSame : select.SameBefore labels row pair.1 leftPlace)
    (rightSame : select.SameBefore labels row pair.2 rightPlace)
    (isLeft : row[leftPlace]? = some (some leftValue))
    (isRight : row[rightPlace]? = some (some rightValue)) : leftValue = rightValue := by
  rcases exists_compares inspects with ⟨active, compares, kept⟩
  -- What the relations say of the sides stays true when output names are known.
  have frames : ∃ behind, select.shown.frames = select.entered.frames ++ behind ∧
      ∀ frame ∈ behind, frame.tables = [] := by
    refine ⟨[], ?_, by rintro _ ⟨⟩⟩
    rw [select.frames_shown, List.append_nil]
  have paired : JoinShadow.Paired catalog select.shown .plain left right pair :=
    ⟨Scope.resolve_of_entered ⟨rfl, rfl⟩ frames joined.left,
      Scope.resolve_of_entered ⟨rfl, rfl⟩ frames joined.right, joined.leftShadow,
      joined.rightShadow⟩
  rcases compares.asserted asserted paired with ⟨places, isActive, leftFirst, rightFirst⟩
  have agrees : JoinShadow.differs row places = false := by
    cases differs : JoinShadow.differs row places with
    | false => rfl
    | true =>
        rw [if_pos (List.any_eq_true.mpr ⟨places, isActive, differs⟩)] at kept
        cases kept
  have leftMoved := Select.value_of_place? leftFirst leftLabel (compares.names leftNamed) leftSame
  have rightMoved :=
    Select.value_of_place? rightFirst rightLabel (compares.names rightNamed) rightSame
  rw [isLeft] at leftMoved
  rw [isRight] at rightMoved
  exact differs_eq_false_iff.mp agrees leftMoved rightMoved

/-- Ask the chain for a query alone, and for its verdict on a row of the result. -/
def Catalog.exchange (catalog : Catalog) (query : Query) (columns : List Wire.Column)
    (returned : Row) : Step ChainState (List String × RowAction × Row) := do
  let _ ← catalog.chain.protect [.query query]
  let shown ← catalog.chain.describe columns 0
  let (action, row) ← catalog.chain.inspect returned
  return (shown.map Wire.Column.label, action, row)

theorem inspects_of_exchange (columns : List Wire.Column) (returned : Row) (before : ChainState)
    (selection : query.selection? = some select)
    (succeeds : ((catalog.exchange query columns returned).run.run before).1.toOption =
      some (labels, action, row)) :
    catalog.Inspects query select labels action row := by
  have run : Gives (catalog.exchange query columns returned) before (labels, action, row)
      ((catalog.exchange query columns returned).run.run before).2 := by
    refine Prod.ext ?_ rfl
    rcases outcome : ((catalog.exchange query columns returned).run.run before).1 with
      failure | value
    · rw [outcome] at succeeds
      cases succeeds
    · rw [outcome] at succeeds
      cases succeeds
      rfl
  rcases gives_bind_iff.mp run with ⟨sent, asked, accepted, run⟩
  rcases gives_bind_iff.mp run with ⟨shown, described, describes, run⟩
  rcases gives_bind_iff.mp run with ⟨⟨verdict, opened⟩, last, inspects, run⟩
  rcases gives_pure_iff.mp run with ⟨⟨⟩, -⟩
  have noAnswers : catalog.receiveAll asked [] = asked := rfl
  have noRows : catalog.receiveAll described ([].map .row) = described := rfl
  rw [← noAnswers] at describes
  rw [← noRows] at inspects
  exact .row accepted rfl selection describes inspects

/-- Cities and the regions that they belong to, joined by the ids of the cities. -/
def regionsCatalog : Catalog :=
  (Catalog.insert {} "cities" (ColumnRule.plain "id" .int4).joined).insert "city2region"
    (ColumnRule.plain "city_id" .int4).joined

/-- A column of a relation. -/
def columnOf (relation column : String) : Expr :=
  .compound [⟨relation, none⟩, ⟨column, none⟩]

/-- A table under a name. -/
def tableAs (table name : String) : TableFactor :=
  .table [⟨table, none⟩] [] (some { name := ⟨name, none⟩ }) []

/-- A selection from a table joined to another: `SELECT … FROM left JOIN right ON …`. -/
def joining (projection : List SelectItem) (left right : TableFactor) (condition : Expr) :
    Select :=
  .mk [] projection "" [.mk left [.mk "JOIN" right [] (.on condition)]] [] none [] [] none []

/-- A selection as a query. -/
def alone (select : Select) : Query :=
  .mk false [] (.select select) [] []

/-- A column of whole numbers in a result. -/
def numbers (name : String) : Wire.Column where
  name := Text.utf8 name
  typeOid := DataType.int4
  typeSize := 4

/-- A column of texts in a result. -/
def texts (name : String) : Wire.Column where
  name := Text.utf8 name
  typeOid := DataType.text
  typeSize := -1

/-- Cities with their regions:
`SELECT c.id AS city, r.city_id AS region, c.title FROM cities c JOIN city2region r ON …`. -/
def citiesInRegions (condition : Expr) : Select :=
  joining [.aliased (columnOf "c" "id") ⟨"city", none⟩,
      .aliased (columnOf "r" "city_id") ⟨"region", none⟩, .expr (columnOf "c" "title")]
    (tableAs "cities" "c") (tableAs "city2region" "r") condition

/-- The join of cities with their regions: `c.id = r.city_id`. -/
def sameCity : Expr :=
  .binary (columnOf "c" "id") .equal (columnOf "r" "city_id")

/-- A city and a region with the same id match. -/
theorem cityInRegion_matches :
    let select := citiesInRegions sameCity
    let row : Row := [some [0x37], some [0x37], none]
    let labels := ["city", "region", "title"]
    regionsCatalog.Inspects (alone select) select labels .keep row ∧
      (columnOf "c" "id", columnOf "r" "city_id") ∈ select.equated ∧
        JoinShadow.Paired regionsCatalog select.entered .plain (columnOf "c" "id")
          (columnOf "r" "city_id") (⟨"cities", "id"⟩, ⟨"city2region", "city_id"⟩) ∧
          ∃ left right, row[0]? = some (some left) ∧ row[1]? = some (some right) ∧
            left = right := by
  intro select row labels
  have inspects : regionsCatalog.Inspects (alone select) select labels .keep row :=
    inspects_of_exchange [numbers "city", numbers "region", texts "title"] row
      (.initial { stream := fun _ => 0 }) rfl (by decide +kernel)
  have asserted : (columnOf "c" "id", columnOf "r" "city_id") ∈ select.equated :=
    List.mem_cons_self
  have joined : JoinShadow.Paired regionsCatalog select.entered .plain (columnOf "c" "id")
      (columnOf "r" "city_id") (⟨"cities", "id"⟩, ⟨"city2region", "city_id"⟩) :=
    ⟨rfl, rfl, by decide +kernel, by decide +kernel⟩
  refine ⟨inspects, asserted, joined, [0x37], [0x37], rfl, rfl, ?_⟩
  refine kept_rows_match inspects asserted joined
    ⟨_, List.mem_cons_self, _, _, rfl, rfl, rfl⟩
    ⟨_, List.mem_cons_of_mem _ List.mem_cons_self, _, _, rfl, rfl, rfl⟩
    (show labels[0]? = some "city" from rfl) (show labels[1]? = some "region" from rfl) ?_ ?_
    (show row[0]? = _ from rfl) (show row[1]? = _ from rfl)
  · intro earlier before
    cases before
  · intro earlier before name label stands
    rcases Nat.lt_one_iff.mp before with rfl
    cases label
    revert stands
    decide +kernel

/-- A join of a table with itself:
`SELECT a.id AS x, b.id AS y FROM cities a JOIN cities b ON a.id = b.id`. -/
def equalCities : Select :=
  joining [.aliased (columnOf "a" "id") ⟨"x", none⟩, .aliased (columnOf "b" "id") ⟨"y", none⟩]
    (tableAs "cities" "a") (tableAs "cities" "b")
    (.binary (columnOf "a" "id") .equal (columnOf "b" "id"))

/-- Two names for one column of a table are not told apart: a row is kept although the sides
of the equality differ.  The server returns it because both ids have the same shadow, of one
byte. -/
theorem equalCities_keeps_unequal_row :
    let catalog := { regionsCatalog with joinKeySize := 1 }
    let row : Row := [some (Text.utf8 "26"), some (Text.utf8 "29")]
    (∃ shadow, JoinShadow.value catalog (ColumnRule.plain "id" .int4) (.number "26") = .ok shadow ∧
      JoinShadow.value catalog (ColumnRule.plain "id" .int4) (.number "29") = .ok shadow) ∧
      catalog.Inspects (alone equalCities) equalCities ["x", "y"] .keep row ∧
        (columnOf "a" "id", columnOf "b" "id") ∈ equalCities.equated ∧
          JoinShadow.Paired catalog equalCities.entered .plain (columnOf "a" "id")
            (columnOf "b" "id") (⟨"cities", "id"⟩, ⟨"cities", "id"⟩) ∧
            equalCities.projection.map SelectItem.shown? =
                [some (columnOf "a" "id", some ⟨"x", none⟩),
                  some (columnOf "b" "id", some ⟨"y", none⟩)] ∧
              ∃ left right, row[0]? = some (some left) ∧ row[1]? = some (some right) ∧
                left ≠ right := by
  intro catalog row
  have collide : (Crypto.Sha256.digest [0, 0, 0, 26]).take 1 =
      (Crypto.Sha256.digest [0, 0, 0, 29]).take 1 := by
    decide +kernel
  refine ⟨⟨.ofBytes ((Crypto.Sha256.digest [0, 0, 0, 26]).take 1), rfl, ?_⟩, ?_,
    List.mem_cons_self, ⟨rfl, rfl, by decide +kernel, by decide +kernel⟩, rfl,
    Text.utf8 "26", Text.utf8 "29", rfl, rfl, by decide +kernel⟩
  · rw [collide]
    rfl
  · exact inspects_of_exchange [numbers "x", numbers "y"] row
      (.initial { stream := fun _ => 0 }) rfl (by decide +kernel)

end Rows

/-! ## Conditions that hold -/

namespace Sql

/-- Whether two values are equal; nothing is known of NULL. -/
def Truth.equality (left right : Option Bytes) : Truth := do
  return (← left) == (← right)

theorem Truth.both_eq_true_iff {first second : Truth} :
    first.both second = some true ↔ first = some true ∧ second = some true := by
  rcases first with _ | _ | _ <;> rcases second with _ | _ | _ <;> simp [both]

theorem Truth.equality_eq_true_iff {left right : Option Bytes} :
    equality left right = some true ↔ ∃ value, left = some value ∧ right = some value := by
  cases left with
  | none => exact ⟨by rintro ⟨⟩, by rintro ⟨_, ⟨⟩, _⟩⟩
  | some first =>
      cases right with
      | none => exact ⟨by rintro ⟨⟩, by rintro ⟨_, _, ⟨⟩⟩⟩
      | some second =>
          have unfolded : equality (some first) (some second) = some (first == second) := rfl
          rw [unfolded, Option.some.injEq, beq_iff_eq]
          constructor
          · rintro rfl
            exact ⟨first, rfl, rfl⟩
          · rintro ⟨value, ⟨⟩, ⟨⟩⟩
            rfl

/-- The truth of a condition, if a test says what holds of the parts that connectives and
parentheses leave. -/
def Expr.verdict (test : Expr → Truth) : Expr → Truth
  | .binary left .and right => (left.verdict test).both (right.verdict test)
  | .binary left .or right => (left.verdict test).either (right.verdict test)
  | .unary .not inner => (inner.verdict test).negation
  | .nested inner => inner.verdict test
  | expr => test expr

/-- An equality that a condition asserts holds if the condition does. -/
theorem Expr.test_of_verdict {test : Expr → Truth} (condition : Expr)
    (holds : condition.verdict test = some true) {sides : Expr × Expr}
    (member : sides ∈ condition.equated) : test (.binary sides.1 .equal sides.2) = some true := by
  cases condition with
  | binary left operator right =>
      cases operator with
      | and =>
          rcases Truth.both_eq_true_iff.mp holds with ⟨leftHolds, rightHolds⟩
          rcases List.mem_append.mp member with inLeft | inRight
          · exact test_of_verdict left leftHolds inLeft
          · exact test_of_verdict right rightHolds inRight
      | equal =>
          rcases List.mem_singleton.mp member with rfl
          exact holds
      | _ => cases member
  | nested inner => exact test_of_verdict inner holds member
  | _ => cases member
termination_by structural condition

end Sql

/--
A row in which the conditions of a query hold is kept, if every equality of joined
columns in the query is one that the conditions assert.  The sides of such an equality have
values in the row, which the test for the conditions compares, and which are shown wherever
an output name stands for their columns.
-/
theorem true_rows_are_kept {catalog : Catalog} {query : Query} {select : Select}
    {labels : List String} {action : RowAction} {row : Row} {test : Expr → Truth}
    {value : Expr → Option Bytes}
    (inspects : catalog.Inspects query select labels action row)
    (harmless : Harmless catalog.marks (query.buried select))
    (compares : ∀ left right pair, JoinShadow.Paired catalog select.shown .plain left right pair →
      test (.binary left .equal right) = Truth.equality (value left) (value right))
    (shows : ∀ left right pair, (left, right) ∈ select.equated →
      JoinShadow.Paired catalog select.shown .plain left right pair →
        select.ShowsValue labels row pair.1 (value left) ∧
          select.ShowsValue labels row pair.2 (value right))
    (holds : ∀ condition ∈ select.conditions, condition.verdict test = some true) :
    action = .keep := by
  rcases exists_compares inspects with ⟨active, found, rfl⟩
  have agree : ¬ active.any (JoinShadow.differs row) = true := by
    rw [List.any_eq_true]
    rintro ⟨places, isActive, differs⟩
    rcases found.only harmless isActive with
      ⟨sides, member, pair, paired, leftFirst, rightFirst⟩
    rcases List.mem_flatMap.mp member with ⟨condition, isCondition, asserted⟩
    have equal := Expr.test_of_verdict condition (holds condition isCondition) asserted
    rw [compares _ _ pair paired] at equal
    rcases Truth.equality_eq_true_iff.mp equal with ⟨common, leftValue, rightValue⟩
    rcases shows _ _ pair member paired with ⟨leftShows, rightShows⟩
    rcases Select.label_of_place? leftFirst with ⟨leftName, leftLabel, leftStands⟩
    rcases Select.label_of_place? rightFirst with ⟨rightName, rightLabel, rightStands⟩
    have leftIs := leftShows places.1 leftName leftLabel leftStands
    have rightIs := rightShows places.2 rightName rightLabel rightStands
    rw [leftValue] at leftIs
    rw [rightValue] at rightIs
    rw [← Bool.not_eq_false, differs_eq_false_iff] at differs
    refine differs fun isLeft isRight => ?_
    rw [leftIs] at isLeft
    rw [rightIs] at isRight
    cases isLeft
    cases isRight
    rfl
  rw [if_neg agree]

/-- The test that compares the values of the two sides of an equality. -/
def comparesValues (value : Expr → Option Bytes) : Expr → Truth
  | .binary left .equal right => Truth.equality (value left) (value right)
  | _ => none

/-- The values of columns in a row, and of strings. -/
def valueIn (row : List ((String × String) × Bytes)) : Expr → Option Bytes
  | .compound [relation, column] => row.lookup (relation.normal, column.normal)
  | .value (.string text) => some (Text.utf8 text)
  | _ => none

/-- A condition on the title of a city: `c.title = …`. -/
def titled (title : String) : Expr :=
  .binary (columnOf "c" "title") .equal (.value (.string title))

/-- Beside the join other equalities may stand in any place:
`c.id = r.city_id AND (c.title = 'x' OR NOT c.title = 'y')`. -/
def sameTitledCity : Expr :=
  .binary sameCity .and (.nested (.binary (titled "x") .or (.unary .not (titled "y"))))

/-- A city in its region, under a title that the condition admits, is kept. -/
theorem titledCity_is_kept :
    let select := citiesInRegions sameTitledCity
    let row : Row := [some [0x37], some [0x37], some [0x7a]]
    let labels := ["city", "region", "title"]
    let test := comparesValues
      (valueIn [(("c", "id"), [0x37]), (("r", "city_id"), [0x37]), (("c", "title"), [0x7a])])
    Harmless regionsCatalog.marks ((alone select).buried select) ∧
      (∀ condition ∈ select.conditions, condition.verdict test = some true) ∧
        ∃ action, regionsCatalog.Inspects (alone select) select labels action row ∧
          action = .keep := by
  intro select row labels test
  have harmless : Harmless regionsCatalog.marks ((alone select).buried select) := by
    unfold Harmless
    decide +kernel
  have holds : ∀ condition ∈ select.conditions, condition.verdict test = some true := by
    decide +kernel
  have inspects : regionsCatalog.Inspects (alone select) select labels .keep row :=
    inspects_of_exchange [numbers "city", numbers "region", texts "title"] row
      (.initial { stream := fun _ => 0 }) rfl (by decide +kernel)
  refine ⟨harmless, holds, .keep, inspects, ?_⟩
  refine true_rows_are_kept inspects harmless (fun _ _ _ _ => rfl) ?_ holds
  intro left right pair member paired
  rcases List.mem_singleton.mp member with ⟨⟩
  have joined : JoinShadow.Paired regionsCatalog select.shown .plain (columnOf "c" "id")
      (columnOf "r" "city_id") (⟨"cities", "id"⟩, ⟨"city2region", "city_id"⟩) :=
    ⟨rfl, rfl, by decide +kernel, by decide +kernel⟩
  rcases paired.unique joined with rfl
  -- Both ids are the same, so only the title has to be told apart from them.
  have shows (column : ColumnRef) (apart : select.shown.output? "title" ≠ some column) :
      select.ShowsValue labels row column (some [0x37]) := by
    intro place name label stands
    rcases place with _ | _ | _ | place
    · rfl
    · rfl
    · cases label
      exact absurd stands apart
    · cases label
  exact ⟨shows _ (by decide +kernel), shows _ (by decide +kernel)⟩

/-- Cities with any region, if their title is right: `c.id = r.city_id OR c.title = 'x'`. -/
def eitherCity : Expr :=
  .binary sameCity .or (titled "x")

/-- An equality that a condition does not assert is remembered all the same: a row in which
the other side of the condition holds is dropped. -/
theorem eitherCity_drops_true_row :
    let select := citiesInRegions eitherCity
    let row : Row := [some [0x31], some [0x32], some [0x78]]
    let labels := ["city", "region", "title"]
    let value :=
      valueIn [(("c", "id"), [0x31]), (("r", "city_id"), [0x32]), (("c", "title"), [0x78])]
    select.projection.map SelectItem.shown? =
        [some (columnOf "c" "id", some ⟨"city", none⟩),
          some (columnOf "r" "city_id", some ⟨"region", none⟩), some (columnOf "c" "title", none)] ∧
      row = [value (columnOf "c" "id"), value (columnOf "r" "city_id"),
          value (columnOf "c" "title")] ∧
        (∀ condition ∈ select.conditions,
          condition.verdict (comparesValues value) = some true) ∧
          regionsCatalog.Inspects (alone select) select labels .discard row := by
  intro select row labels value
  refine ⟨rfl, rfl, by decide +kernel, ?_⟩
  exact inspects_of_exchange [numbers "city", numbers "region", texts "title"] row
    (.initial { stream := fun _ => 0 }) rfl (by decide +kernel)

end ColumnVeil
