import Mathlib.Data.List.Forall2
import ColumnVeil.Catalog.Definition
import ColumnVeil.Proofs.Catalog.Folding

/-!
# Configurations that are accepted

A definition of a column is valid if its type is known, its keys have thirty-two bytes, and it
names a shadow for searching only together with a key.  A configuration is accepted exactly if all
its definitions are valid and a digest can fill the join key size (`exists_ofDefinitions_iff`);
then the catalog holds what the definitions state, recorded one after the other
(`ofDefinitions_eq_ok_iff`), and every key in it has thirty-two bytes (`keysFit_of_accepted`).
-/

namespace ColumnVeil

theorem bind_eq_ok_iff {α β : Type} {result : Except Failure α} {next : α → Except Failure β}
    {value : β} :
    (result >>= next) = .ok value ↔ ∃ first, result = .ok first ∧ next first = .ok value := by
  cases result with
  | error failure =>
      constructor
      · intro accepted
        cases accepted
      · rintro ⟨first, impossible, -⟩
        cases impossible
  | ok first =>
      constructor
      · intro accepted
        exact ⟨first, rfl, accepted⟩
      · rintro ⟨_, same, accepted⟩
        cases same
        exact accepted

/-- The keys of a rule have thirty-two bytes. -/
structure ColumnRule.KeysFit (rule : ColumnRule) : Prop where
  encryptionKey : ∀ key ∈ rule.encryptionKey, key.length = 32
  indexKey : ∀ index ∈ rule.blindIndex, index.key.length = 32

namespace ColumnDefinition

variable {definition : ColumnDefinition} {table : String} {rule : ColumnRule}

/-- Nothing about a definition is wrong. -/
structure Valid (definition : ColumnDefinition) : Prop where
  type : (DataType.ofName? definition.type).isSome
  encryptionKey : ∀ key ∈ definition.encryptionKey, key.length = 32
  indexKey : ∀ key ∈ definition.blindIndexKey, key.length = 32
  indexColumn : definition.blindIndexColumn.isSome → definition.blindIndexKey.isSome

instance (definition : ColumnDefinition) : Decidable definition.Valid :=
  decidable_of_iff
    ((DataType.ofName? definition.type).isSome = true ∧
      (∀ key ∈ definition.encryptionKey, key.length = 32) ∧
      (∀ key ∈ definition.blindIndexKey, key.length = 32) ∧
      (definition.blindIndexColumn.isSome = true → definition.blindIndexKey.isSome = true))
    ⟨fun ⟨type, encryptionKey, indexKey, indexColumn⟩ =>
      ⟨type, encryptionKey, indexKey, indexColumn⟩,
      fun valid => ⟨valid.type, valid.encryptionKey, valid.indexKey, valid.indexColumn⟩⟩

/-- The rule that a valid definition states of a column of a type. -/
def stated (definition : ColumnDefinition) (dataType : DataType) : ColumnRule :=
  let column := Text.lowercase definition.name
  { column
    dataType
    width := definition.width.getD dataType.width
    encryptionKey := definition.encryptionKey
    blindIndex := definition.blindIndexKey.map fun key =>
      ⟨shadow column "_bi" definition.blindIndexColumn, key⟩
    joinShadow :=
      if definition.join || definition.joinColumn.isSome then
        some (shadow column "_join" definition.joinColumn)
      else none }

/-- The checks of a definition whose type is known. -/
def checkKeys (definition : ColumnDefinition) (table : String) : Except Failure Unit := do
  let column := Text.lowercase definition.name
  match definition.encryptionKey with
  | some key => checkKey "encryption_key" table column key
  | none => pure ()
  match definition.blindIndexKey, definition.blindIndexColumn with
  | some key, _ => checkKey "blind_index_key" table column key
  | none, some _ => .error (.config (.indexColumnWithoutKey table column))
  | none, none => pure ()

/-- Where the type of a column is known, a definition states its rule if its keys pass. -/
theorem rule_eq_of_known {dataType : DataType}
    (known : DataType.ofName? definition.type = some dataType) :
    definition.rule table = (definition.checkKeys table).map fun _ =>
      definition.stated dataType := by
  unfold rule checkKeys stated
  rw [known]
  generalize definition.encryptionKey = encryptionKey, definition.blindIndexKey = indexKey,
    definition.blindIndexColumn = indexColumn, Text.lowercase definition.name = column
  rcases encryptionKey with - | key
  case' some =>
    dsimp only
    rcases checkKey "encryption_key" table column key with failure | -
    · rfl
  all_goals
    rcases indexKey with - | key
    · rcases indexColumn with - | name
      · rfl
      · rfl
    · dsimp only
      rcases checkKey "blind_index_key" table column key with failure | -
      · rfl
      · rfl

theorem checkKey_eq_ok_iff {field column : String} {key : Bytes} {checked : Unit} :
    checkKey field table column key = .ok checked ↔ key.length = 32 := by
  unfold checkKey
  split
  · rename_i wrong
    constructor
    · intro accepted
      cases accepted
    · intro fits
      exact absurd fits wrong
  · rename_i fits
    exact ⟨fun _ => Decidable.of_not_not fits, fun _ => rfl⟩

theorem checkKeys_eq_ok_iff {checked : Unit} : definition.checkKeys table = .ok checked ↔
    (∀ key ∈ definition.encryptionKey, key.length = 32) ∧
      (∀ key ∈ definition.blindIndexKey, key.length = 32) ∧
      (definition.blindIndexColumn.isSome → definition.blindIndexKey.isSome) := by
  unfold checkKeys
  generalize definition.encryptionKey = encryptionKey, definition.blindIndexKey = indexKey,
    definition.blindIndexColumn = indexColumn
  have ofIndex : (match indexKey, indexColumn with
      | some key, _ => checkKey "blind_index_key" table (Text.lowercase definition.name) key
      | none, some _ => .error (.config (.indexColumnWithoutKey table
          (Text.lowercase definition.name)))
      | none, none => pure ()) = .ok checked ↔
      (∀ key ∈ indexKey, key.length = 32) ∧ (indexColumn.isSome → indexKey.isSome) := by
    rcases indexKey with - | key
    · rcases indexColumn with - | name
      · simp [pure, Except.pure]
      · simp
    · simp [checkKey_eq_ok_iff]
  rcases encryptionKey with - | key
  · rw [← ofIndex]
    simp
  · simp only [bind_eq_ok_iff, checkKey_eq_ok_iff, exists_and_left, ofIndex]
    simp

theorem rule_eq_ok_iff : definition.rule table = .ok rule ↔
    definition.Valid ∧ ∃ dataType, DataType.ofName? definition.type = some dataType ∧
      rule = definition.stated dataType := by
  cases known : DataType.ofName? definition.type with
  | none =>
      unfold ColumnDefinition.rule
      rw [known]
      constructor
      · intro accepted
        cases accepted
      · rintro ⟨-, dataType, impossible, -⟩
        cases impossible
  | some dataType =>
      rw [rule_eq_of_known known]
      constructor
      · intro accepted
        cases checked : definition.checkKeys table with
        | error failure =>
            rw [checked] at accepted
            cases accepted
        | ok _ =>
            rw [checked] at accepted
            cases accepted
            obtain ⟨encryptionKey, indexKey, indexColumn⟩ := checkKeys_eq_ok_iff.mp checked
            exact ⟨⟨known ▸ rfl, encryptionKey, indexKey, indexColumn⟩, dataType, rfl, rfl⟩
      · rintro ⟨valid, _, same, rfl⟩
        cases same
        have passed : definition.checkKeys table = .ok () :=
          checkKeys_eq_ok_iff.mpr ⟨valid.encryptionKey, valid.indexKey, valid.indexColumn⟩
        rw [passed]
        rfl

/-- A definition states a rule exactly if it is valid. -/
theorem exists_rule_iff : (∃ rule, definition.rule table = .ok rule) ↔ definition.Valid := by
  constructor
  · rintro ⟨rule, accepted⟩
    exact (rule_eq_ok_iff.mp accepted).1
  · intro valid
    obtain ⟨dataType, known⟩ := Option.isSome_iff_exists.mp valid.type
    exact ⟨definition.stated dataType, rule_eq_ok_iff.mpr ⟨valid, dataType, known, rfl⟩⟩

theorem keysFit_of_rule (accepted : definition.rule table = .ok rule) : rule.KeysFit := by
  obtain ⟨valid, dataType, -, rfl⟩ := rule_eq_ok_iff.mp accepted
  constructor
  · exact valid.encryptionKey
  · intro index stated
    obtain ⟨key, listed, rfl⟩ := Option.map_eq_some_iff.mp stated
    exact valid.indexKey key listed

end ColumnDefinition

namespace Catalog

/-- The definitions of all columns, each with the name of its table. -/
def definitions (tables : List TableDefinition) : List (String × ColumnDefinition) :=
  tables.flatMap fun table => table.columns.map fun definition => (table.name, definition)

/-- A rule is recorded for a definition, under the name of its table. -/
def RecordedFor (named : String × ColumnDefinition) (entry : String × ColumnRule) : Prop :=
  entry.1 = named.1 ∧ named.2.rule named.1 = .ok entry.2

/-- Record the rules of some definitions. -/
def recordAll (catalog : Catalog) (named : List (String × ColumnDefinition)) :
    Except Failure Catalog :=
  named.foldlM (fun catalog named => do
    return catalog.insert named.1 (← named.2.rule named.1)) catalog

theorem recordAll_definitions (catalog : Catalog) (tables : List TableDefinition) :
    recordAll catalog (definitions tables) = tables.foldlM addTable catalog := by
  induction tables generalizing catalog with
  | nil => rfl
  | cons table rest inductionHypothesis =>
      have split : definitions (table :: rest) =
          (table.columns.map fun definition => (table.name, definition)) ++ definitions rest := rfl
      rw [split, List.foldlM_cons, recordAll, List.foldlM_append, List.foldlM_map]
      exact bind_congr inductionHypothesis

theorem recordAll_eq_ok_iff {named : List (String × ColumnDefinition)} {start result : Catalog} :
    recordAll start named = .ok result ↔ ∃ entries, List.Forall₂ RecordedFor named entries ∧
      result = entries.foldl (fun catalog entry => catalog.insert entry.1 entry.2) start := by
  induction named generalizing start with
  | nil =>
      constructor
      · intro accepted
        cases accepted
        exact ⟨[], .nil, rfl⟩
      · rintro ⟨entries, recorded, rfl⟩
        cases recorded
        rfl
  | cons first rest inductionHypothesis =>
      rw [recordAll, List.foldlM_cons, bind_eq_ok_iff]
      constructor
      · rintro ⟨next, inserted, accepted⟩
        obtain ⟨rule, stated, ⟨⟩⟩ := bind_eq_ok_iff.mp inserted
        obtain ⟨entries, recorded, rfl⟩ := inductionHypothesis.mp accepted
        exact ⟨(first.1, rule) :: entries, .cons ⟨rfl, stated⟩ recorded, rfl⟩
      · rintro ⟨entries, recorded, rfl⟩
        cases recorded with
        | @cons _ entry _ entries same recorded =>
            refine ⟨start.insert entry.1 entry.2, ?_,
              inductionHypothesis.mpr ⟨entries, recorded, rfl⟩⟩
            rw [same.2, same.1]
            rfl

theorem ofDefinitions_eq_ok_iff {tables : List TableDefinition} {joinKeySize : Nat}
    {catalog : Catalog} :
    ofDefinitions tables joinKeySize = .ok catalog ↔ (1 ≤ joinKeySize ∧ joinKeySize ≤ 32) ∧
      ∃ entries, List.Forall₂ RecordedFor (definitions tables) entries ∧
        catalog = ofEntries entries joinKeySize := by
  unfold ofDefinitions
  split
  · rename_i unfit
    constructor
    · intro accepted
      cases accepted
    · rintro ⟨fits, -⟩
      omega
  · rename_i fits
    rw [← recordAll_definitions, recordAll_eq_ok_iff]
    constructor
    · intro recorded
      exact ⟨by omega, recorded⟩
    · rintro ⟨-, recorded⟩
      exact recorded

theorem exists_recorded_iff {named : List (String × ColumnDefinition)} :
    (∃ entries, List.Forall₂ RecordedFor named entries) ↔
      ∀ definition ∈ named, definition.2.Valid := by
  induction named with
  | nil =>
      constructor
      · intro _ definition member
        cases member
      · intro _
        exact ⟨[], .nil⟩
  | cons first rest inductionHypothesis =>
      rw [List.forall_mem_cons, ← inductionHypothesis]
      constructor
      · rintro ⟨entries, recorded⟩
        cases recorded with
        | cons here later =>
            exact ⟨ColumnDefinition.exists_rule_iff.mp ⟨_, here.2⟩, _, later⟩
      · rintro ⟨valid, entries, later⟩
        obtain ⟨rule, stated⟩ := ColumnDefinition.exists_rule_iff.mpr valid
        exact ⟨(first.1, rule) :: entries, .cons ⟨rfl, stated⟩ later⟩

/-- A configuration is accepted exactly if a digest can fill the join key size and all
definitions are valid. -/
theorem exists_ofDefinitions_iff {tables : List TableDefinition} {joinKeySize : Nat} :
    (∃ catalog, ofDefinitions tables joinKeySize = .ok catalog) ↔
      (1 ≤ joinKeySize ∧ joinKeySize ≤ 32) ∧
        ∀ table ∈ tables, ∀ definition ∈ table.columns, definition.Valid := by
  have everywhere : (∀ named ∈ definitions tables, named.2.Valid) ↔
      ∀ table ∈ tables, ∀ definition ∈ table.columns, definition.Valid := by
    simp only [definitions, List.mem_flatMap, List.mem_map]
    constructor
    · intro valid table listed definition member
      exact valid (table.name, definition) ⟨table, listed, definition, member, rfl⟩
    · rintro valid _ ⟨table, listed, definition, member, rfl⟩
      exact valid table listed definition member
  rw [← everywhere, ← exists_recorded_iff]
  constructor
  · rintro ⟨catalog, accepted⟩
    obtain ⟨fits, entries, recorded, -⟩ := ofDefinitions_eq_ok_iff.mp accepted
    exact ⟨fits, entries, recorded⟩
  · rintro ⟨fits, entries, recorded⟩
    exact ⟨_, ofDefinitions_eq_ok_iff.mpr ⟨fits, entries, recorded, rfl⟩⟩

section Accepted

variable {tables : List TableDefinition} {joinKeySize : Nat} {catalog : Catalog}

theorem joinKeySize_of_accepted (accepted : ofDefinitions tables joinKeySize = .ok catalog) :
    catalog.joinKeySize = joinKeySize ∧ joinKeySize ≤ 32 := by
  obtain ⟨fits, entries, -, rfl⟩ := ofDefinitions_eq_ok_iff.mp accepted
  exact ⟨joinKeySize_ofEntries entries joinKeySize, fits.2⟩

/-- What an accepted catalog keeps is the rule that one of the definitions states. -/
theorem exists_definition_of_mem (accepted : ofDefinitions tables joinKeySize = .ok catalog)
    {kept : Sql.ColumnRef × ColumnRule} (member : kept ∈ catalog.rules) :
    ∃ table ∈ tables, ∃ definition ∈ table.columns,
      definition.rule table.name = .ok kept.2 := by
  obtain ⟨-, entries, recorded, rfl⟩ := ofDefinitions_eq_ok_iff.mp accepted
  obtain ⟨entry, listed, -, same⟩ := exists_entry_of_lookup (lookup_of_mem member)
  obtain ⟨index, inside, rfl⟩ := List.getElem_of_mem listed
  obtain ⟨sameLength, each⟩ := List.forall₂_iff_get.mp recorded
  obtain ⟨-, stated⟩ := each index (sameLength ▸ inside) inside
  obtain ⟨table, ofTables, ofTable⟩ := List.mem_flatMap.mp
    (List.get_mem (definitions tables) ⟨index, sameLength ▸ inside⟩)
  obtain ⟨definition, ofColumns, names⟩ := List.mem_map.mp ofTable
  rw [← names] at stated
  exact ⟨table, ofTables, definition, ofColumns, same ▸ stated⟩

theorem keysFit_of_accepted (accepted : ofDefinitions tables joinKeySize = .ok catalog)
    {kept : Sql.ColumnRef × ColumnRule} (member : kept ∈ catalog.rules) : kept.2.KeysFit := by
  obtain ⟨table, -, definition, -, stated⟩ := exists_definition_of_mem accepted member
  exact ColumnDefinition.keysFit_of_rule stated

end Accepted

end Catalog
end ColumnVeil
