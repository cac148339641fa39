import ColumnVeil.Proofs.Shield.Treatment
import ColumnVeil.Shield.Chain

/-!
# Insertions through the whole chain

Three shields treat the rows of an insertion one after the other: the blind index and the
join append values to each row and shadows to the columns, then encryption puts payloads in
the place of the client's literals.  The main statement says what is sent for each row of
literals, in terms of the client's own literals, and that columns and values stay aligned.
-/

namespace ColumnVeil

open Sql Treatment

variable {catalog : Catalog} {table : String}

/-! ## What is stored -/

/--
The constant that is stored for a literal of the client: NULL for NULL, and for
another literal what becomes of its bytes.
-/
inductive Stored (rule : ColumnRule) (becomes : Bytes → Bytes → Prop) : Literal → Expr → Prop where
  | null : Stored rule becomes .null .null
  | bytes {literal : Literal} {plaintext stored : Bytes} :
      rule.plaintext literal = .ok (some plaintext) →
        becomes plaintext stored → Stored rule becomes literal (.ofBytes stored)

/-- The keyed digest that a blind index stores. -/
def IndexShadow.Digests (index : BlindIndex) (plaintext stored : Bytes) : Prop :=
  stored = Crypto.Sha256.hmac index.key plaintext

/-- The first bytes of a digest, as many as a join shadow stores. -/
def JoinShadow.Digests (catalog : Catalog) (plaintext stored : Bytes) : Prop :=
  stored = (Crypto.Sha256.digest plaintext).take (min catalog.joinKeySize 32)

/-- A payload that a value is encrypted to, from some state of the random bytes. -/
def Encryption.Encrypts (key : Bytes) (plaintext stored : Bytes) : Prop :=
  ∃ entropy rest, Crypto.Cbc.encrypt key plaintext entropy = .ok (stored, rest)

/-- Only NULL stands for no bytes. -/
theorem ColumnRule.eq_null_of_plaintext {rule : ColumnRule} {literal : Literal}
    (none : rule.plaintext literal = .ok none) : literal = .null := by
  cases literal with
  | null =>
      rfl
  | _ =>
      simp only [plaintext] at none
      split at none <;> cases none

theorem literal?_stored {rule : ColumnRule} {becomes : Bytes → Bytes → Prop}
    {literal : Literal} {value : Expr} (stored : Stored rule becomes literal value) :
    value.literal?.isSome = true := by
  cases stored with
  | null =>
      rfl
  | bytes encodes stores =>
      rfl

/-- A value computed from the bytes of a literal is what is stored for it. -/
theorem stored_of_encoded {rule : ColumnRule} {value : Expr} {literal : Literal}
    {becomes : Bytes → Bytes → Prop} {digest : Bytes → Bytes}
    (meets : ∀ plaintext, becomes plaintext (digest plaintext))
    (computed : (do
        match ← rule.plaintext literal with
        | some plaintext => return Expr.ofBytes (digest plaintext)
        | none => return Expr.null) = Except.ok value) :
    Stored rule becomes literal value := by
  cases encoded : rule.plaintext literal with
  | error failure =>
      rw [encoded] at computed
      cases computed
  | ok plaintext =>
      rw [encoded] at computed
      cases plaintext with
      | none =>
          cases computed
          rw [ColumnRule.eq_null_of_plaintext encoded]
          exact Stored.null
      | some bytes =>
          cases computed
          exact Stored.bytes encoded (meets bytes)

theorem IndexShadow.stored_of_gives {rule : ColumnRule} {index : BlindIndex} {value : Expr}
    {literal : Literal} {before after : Traversal Unit} (indexed : rule.blindIndex = some index)
    (run : Gives (treatment.value rule literal) before value after) :
    Stored rule (Digests index) literal value := by
  simp only [treatment, indexed, Walk.gives_ofExcept_iff] at run
  exact stored_of_encoded (fun _ => rfl) run.1

theorem JoinShadow.stored_of_gives {rule : ColumnRule} {value : Expr}
    {literal : Literal} {before after : Traversal State}
    (run : Gives ((treatment catalog).value rule literal) before value after) :
    Stored rule (Digests catalog) literal value := by
  have meets : ∀ plaintext, Digests catalog plaintext
      ((Crypto.Sha256.digest plaintext).take catalog.joinKeySize) := by
    intro plaintext
    rw [Digests, List.take_eq_take_iff, Crypto.Sha256.digest_length]
    omega
  simp only [treatment, Walk.gives_ofExcept_iff] at run
  exact stored_of_encoded meets run.1

theorem Encryption.stored_of_gives {rule : ColumnRule} {key : Bytes} {value : Expr}
    {literal : Literal} {before after : Traversal State}
    (encrypted : rule.encryptionKey = some key)
    (run : Gives (treatment.value rule literal) before value after) :
    Stored rule (Encrypts key) literal value := by
  simp only [treatment, encrypted, Encryption.value, gives_bind_iff, Walk.gives_ofExcept_iff]
    at run
  rcases run with ⟨plaintext, middle, ⟨encoded, rfl⟩, run⟩
  cases plaintext with
  | none =>
      rcases gives_pure_iff.mp run with ⟨rfl, _⟩
      rw [ColumnRule.eq_null_of_plaintext encoded]
      exact Stored.null
  | some bytes =>
      simp only [gives_bind_iff, gives_get_iff] at run
      rcases run with ⟨state, _, ⟨rfl, rfl⟩, run⟩
      cases sealed : Crypto.Cbc.encrypt key bytes before.own.entropy with
      | error error =>
          simp only [sealed] at run
          exact absurd run not_gives_throw
      | ok payload =>
          simp only [sealed, gives_bind_iff, gives_pure_iff] at run
          rcases run with ⟨_, _, _, rfl, _⟩
          exact Stored.bytes encoded ⟨before.own.entropy, payload.2, sealed⟩

theorem IndexShadow.literal?_value {rule : ColumnRule} {literal : Literal} {value : Expr}
    {before after : Traversal Unit}
    (run : Gives (treatment.value rule literal) before value after) :
    value.literal?.isSome = true := by
  cases indexed : rule.blindIndex with
  | none =>
      simp only [treatment, indexed] at run
      rcases gives_pure_iff.mp run with ⟨rfl, _⟩
      rfl
  | some index =>
      exact literal?_stored (stored_of_gives indexed run)

theorem Encryption.literal?_value {rule : ColumnRule} {literal : Literal} {value : Expr}
    {before after : Traversal State}
    (run : Gives (treatment.value rule literal) before value after) :
    value.literal?.isSome = true := by
  cases encrypted : rule.encryptionKey with
  | none =>
      simp only [treatment, encrypted] at run
      rcases gives_pure_iff.mp run with ⟨rfl, _⟩
      rfl
  | some key =>
      exact literal?_stored (stored_of_gives encrypted run)

/-! ## What is sent -/

/-- The shadow columns of a column. -/
def ColumnRule.shadows (rule : ColumnRule) : List String :=
  (rule.blindIndex.map BlindIndex.column).toList ++ rule.joinShadow.toList

namespace Catalog

/-- The indexed columns among some columns, with their indexes. -/
def indexes (catalog : Catalog) (table : String) (columns : List Ident) :
    List (Nat × ColumnRule × BlindIndex) :=
  catalog.carriers table ColumnRule.blindIndex columns

/-- The joined columns among some columns, with their shadows. -/
def joins (catalog : Catalog) (table : String) (columns : List Ident) :
    List (Nat × ColumnRule × String) :=
  catalog.carriers table ColumnRule.joinShadow columns

/-- The encrypted columns among some columns, with their keys. -/
def keys (catalog : Catalog) (table : String) (columns : List Ident) :
    List (Nat × ColumnRule × Bytes) :=
  catalog.carriers table ColumnRule.encryptionKey columns

/--
The columns that are sent: the client's, then the shadow of each indexed one,
then the shadow of each joined one, each in the order of the list.
-/
def sentColumns (catalog : Catalog) (table : String) (columns : List Ident) : List Ident :=
  columns
    ++ (catalog.indexes table columns).map (fun carrier => ⟨carrier.2.2.column, none⟩)
    ++ (catalog.joins table columns).map (fun carrier => ⟨carrier.2.2, none⟩)

/-- Whether something about a listed column is protected. -/
def protectsColumn (catalog : Catalog) (table : String) (column : Ident) : Bool :=
  (catalog.rule? table column.normal).any ColumnRule.isProtected

/-- No shadow of a table is a protected column of the table itself. -/
def ShadowsApart (catalog : Catalog) (table : String) : Prop :=
  ∀ column rule, catalog.rule? table column = some rule →
    ∀ shadow ∈ rule.shadows, catalog.protectsColumn table ⟨shadow, none⟩ = false

theorem shadowsApart_of_rules
    (apart : ∀ entry ∈ catalog.rules, ∀ shadow ∈ entry.2.shadows,
      catalog.protectsColumn table ⟨shadow, none⟩ = false) :
    catalog.ShadowsApart table := by
  intro column rule ruled
  rcases List.lookup_eq_some_iff.mp ruled with ⟨before, after, split, _⟩
  refine apart (⟨foldCase table, foldCase column⟩, rule) ?_
  simp [split]

end Catalog

/--
What is sent for a row of literals: the row with payloads at the encrypted
columns, then the values of the indexes, then those of the join shadows, all of
them from the client's own literals.
-/
structure Sent (catalog : Catalog) (table : String) (columns : List Ident)
    (row own indexes joins : List Expr) : Prop where
  rowLength : row.length = columns.length
  ownLength : own.length = columns.length
  encrypted : ∀ position rule key, (position, rule, key) ∈ catalog.keys table columns →
    ∃ literal value,
      literalAt row position = some literal ∧ own[position]? = some value ∧
        Stored rule (Encryption.Encrypts key) literal value
  unchanged : ∀ position, (∀ carrier ∈ catalog.keys table columns, carrier.1 ≠ position) →
    own[position]? = row[position]?
  indexed : List.Forall₂
    (fun carrier value => ∃ literal, literalAt row carrier.1 = some literal ∧
      Stored carrier.2.1 (IndexShadow.Digests carrier.2.2) literal value)
    (catalog.indexes table columns) indexes
  joined : List.Forall₂
    (fun carrier value => ∃ literal, literalAt row carrier.1 = some literal ∧
      Stored carrier.2.1 (JoinShadow.Digests catalog) literal value)
    (catalog.joins table columns) joins

/-! ## One row through the chain -/

section Row

variable {columns : List Ident} {row first second third : List Expr}

/-- What the three shields make of a row, if one of them has something to do with it. -/
theorem sent_of_treats
    (touched : catalog.indexes table columns ≠ [] ∨ catalog.joins table columns ≠ [] ∨
      catalog.keys table columns ≠ [])
    (indexed : IndexShadow.treatment.Treats columns.length
      ((catalog.indexes table columns).map
        (Target.ofCarrier fun index => .append index.column)) row first)
    (joined : (JoinShadow.treatment catalog).Treats
      (columns.length + (catalog.indexes table columns).length)
      ((catalog.joins table columns).map
        (Target.ofCarrier fun shadow => .append shadow)) first second)
    (encrypted : Encryption.treatment.Treats
      (columns.length + (catalog.indexes table columns).length
        + (catalog.joins table columns).length)
      ((catalog.keys table columns).map (Target.ofCarrier fun _ => .replace)) second third) :
    ∃ own indexValues joinValues,
      third = own ++ indexValues ++ joinValues ∧
        Sent catalog table columns row own indexValues joinValues := by
  have indexesInside : ∀ carrier ∈ catalog.indexes table columns,
      carrier.1 < columns.length := fun _ => Catalog.position_lt_of_mem_carriers
  have joinsInside : ∀ carrier ∈ catalog.joins table columns,
      carrier.1 < columns.length := fun _ => Catalog.position_lt_of_mem_carriers
  have keysInside : ∀ carrier ∈ catalog.keys table columns,
      carrier.1 < columns.length := fun _ => Catalog.position_lt_of_mem_carriers
  rcases indexed.appends indexesInside with ⟨indexValues, rfl, indexedLength, indexedValues⟩
  rcases joined.appends (fun carrier member =>
    Nat.lt_add_right _ (joinsInside carrier member)) with
    ⟨joinValues, rfl, joinedLength, joinedValues⟩
  have rowLength : row.length = columns.length := by
    have indexCount := indexedValues.length_eq
    have joinCount := joinedValues.length_eq
    rcases touched with some | some | some
    · exact indexedLength some
    · have length := joinedLength some
      rw [List.length_append] at length
      omega
    · have length := encrypted.1 (mt List.map_eq_nil_iff.mp some)
      rw [List.length_append, List.length_append] at length
      omega
  -- The values behind the client's columns are out of the reach of the payloads.
  rw [List.append_assoc] at encrypted
  rcases encrypted.replaces_front Catalog.pairwise_carriers
    (fun carrier member => rowLength ▸ keysInside carrier member) with
    ⟨own, rfl, ownLength, unchanged, replaced⟩
  refine ⟨own, indexValues, joinValues, (List.append_assoc own indexValues joinValues).symm, ?_⟩
  constructor
  case rowLength =>
    exact rowLength
  case ownLength =>
    exact ownLength.trans rowLength
  case encrypted =>
    intro position rule key member
    rcases replaced _ member with ⟨value, place, literal, _, _, found, run⟩
    exact ⟨literal, value, found, place,
      Encryption.stored_of_gives (Catalog.carried_of_mem_carriers member) run⟩
  case unchanged =>
    exact unchanged
  case indexed =>
    have all := (List.forall₂_and_left _ _).mpr
      ⟨fun carrier member => Catalog.carried_of_mem_carriers member, indexedValues⟩
    refine all.imp ?_
    rintro carrier value ⟨carries, literal, _, _, found, run⟩
    exact ⟨literal, found, IndexShadow.stored_of_gives carries run⟩
  case joined =>
    have all := (List.forall₂_and_left _ _).mpr ⟨joinsInside, joinedValues⟩
    refine all.imp ?_
    rintro carrier value ⟨inside, valued⟩
    rcases Treatment.Values.of_append (rowLength ▸ inside) valued with
      ⟨literal, _, _, found, run⟩
    exact ⟨literal, found, JoinShadow.stored_of_gives run⟩

end Row

/-! ## Insertions through the chain -/

namespace Catalog

variable {columns : List Ident}

/-- Where a listed column is protected, some shield has something to do. -/
theorem touched_of_any (some : columns.any (catalog.protectsColumn table) = true) :
    catalog.indexes table columns ≠ [] ∨ catalog.joins table columns ≠ [] ∨
      catalog.keys table columns ≠ [] := by
  rcases List.any_eq_true.mp some with ⟨column, member, isProtected⟩
  rcases List.mem_iff_getElem?.mp member with ⟨position, place⟩
  cases ruled : catalog.rule? table column.normal with
  | none =>
      rw [protectsColumn, ruled] at isProtected
      cases isProtected
  | some rule =>
      rw [protectsColumn, ruled, Option.any_some, ColumnRule.isProtected, Bool.or_eq_true,
        Bool.or_eq_true] at isProtected
      rcases isProtected with (encrypted | indexed) | joined
      · rcases Option.isSome_iff_exists.mp encrypted with ⟨key, load⟩
        have carrier := mem_carriers_iff.mpr ⟨column, place, ruled, load⟩
        exact Or.inr (Or.inr (List.ne_nil_of_mem carrier))
      · rcases Option.isSome_iff_exists.mp indexed with ⟨index, load⟩
        have carrier := mem_carriers_iff.mpr ⟨column, place, ruled, load⟩
        exact Or.inl (List.ne_nil_of_mem carrier)
      · rcases Option.isSome_iff_exists.mp joined with ⟨shadow, load⟩
        have carrier := mem_carriers_iff.mpr ⟨column, place, ruled, load⟩
        exact Or.inr (Or.inl (List.ne_nil_of_mem carrier))

/-- Where no listed column is protected, nothing is carried. -/
theorem carriers_eq_nil {α : Type} {carried : ColumnRule → Option α}
    (unprotected : columns.any (catalog.protectsColumn table) = false)
    (carries : ∀ rule load, carried rule = some load → rule.isProtected = true) :
    catalog.carriers table carried columns = [] := by
  refine List.eq_nil_iff_forall_not_mem.mpr ?_
  rintro ⟨position, rule, load⟩ member
  rcases mem_carriers_iff.mp member with ⟨column, place, ruled, carried⟩
  have none := List.any_eq_false.mp unprotected column (List.mem_of_getElem? place)
  rw [protectsColumn, ruled, Option.any_some] at none
  exact none (carries rule load carried)

/-- A shadow of the table carries nothing itself. -/
theorem ShadowsApart.idle {α : Type} {carried : ColumnRule → Option α}
    (apart : catalog.ShadowsApart table)
    (carries : ∀ rule load, carried rule = some load → rule.isProtected = true)
    {column : String} {rule : ColumnRule} (ruled : catalog.rule? table column = some rule)
    {shadow : String} (isShadow : shadow ∈ rule.shadows) {shadowRule : ColumnRule}
    (shadowRuled : catalog.rule? table (⟨shadow, none⟩ : Ident).normal = some shadowRule) :
    carried shadowRule = none := by
  have unprotected := apart column rule ruled shadow isShadow
  rw [protectsColumn, shadowRuled, Option.any_some] at unprotected
  cases load : carried shadowRule with
  | none =>
      rfl
  | some held =>
      rw [carries shadowRule held load] at unprotected
      cases unprotected

/-- The shadows of indexes carry nothing themselves. -/
theorem ShadowsApart.idle_indexes {α : Type} {carried : ColumnRule → Option α}
    (apart : catalog.ShadowsApart table)
    (carries : ∀ rule load, carried rule = some load → rule.isProtected = true) :
    ∀ column ∈ (catalog.indexes table columns).map
        (fun carrier => (⟨carrier.2.2.column, none⟩ : Ident)),
      ∀ rule, catalog.rule? table column.normal = some rule → carried rule = none := by
  intro column member rule ruled
  rcases List.mem_map.mp member with ⟨⟨position, indexedRule, index⟩, carrier, rfl⟩
  rcases mem_carriers_iff.mp carrier with ⟨listed, _, listedRuled, indexed⟩
  have isShadow : index.column ∈ indexedRule.shadows := by
    simp [ColumnRule.shadows, indexed]
  exact apart.idle carries listedRuled isShadow ruled

/-- The shadows of joins carry nothing themselves. -/
theorem ShadowsApart.idle_joins {α : Type} {carried : ColumnRule → Option α}
    (apart : catalog.ShadowsApart table)
    (carries : ∀ rule load, carried rule = some load → rule.isProtected = true) :
    ∀ column ∈ (catalog.joins table columns).map
        (fun carrier => (⟨carrier.2.2, none⟩ : Ident)),
      ∀ rule, catalog.rule? table column.normal = some rule → carried rule = none := by
  intro column member rule ruled
  rcases List.mem_map.mp member with ⟨⟨position, joinedRule, shadow⟩, carrier, rfl⟩
  rcases mem_carriers_iff.mp carrier with ⟨listed, _, listedRuled, joined⟩
  have isShadow : shadow ∈ joinedRule.shadows := by
    simp [ColumnRule.shadows, joined]
  exact apart.idle carries listedRuled isShadow ruled

end Catalog

theorem ColumnRule.isProtected_of_blindIndex {rule : ColumnRule} {index : BlindIndex}
    (indexed : rule.blindIndex = some index) : rule.isProtected = true := by
  simp [isProtected, indexed]

theorem ColumnRule.isProtected_of_joinShadow {rule : ColumnRule} {shadow : String}
    (joined : rule.joinShadow = some shadow) : rule.isProtected = true := by
  simp [isProtected, joined]

theorem ColumnRule.isProtected_of_encryptionKey {rule : ColumnRule} {key : Bytes}
    (encrypted : rule.encryptionKey = some key) : rule.isProtected = true := by
  simp [isProtected, encrypted]

/-! ### The targets of the three treatments -/

theorem IndexShadow.targets_columns (columns : List Ident) :
    treatment.targets catalog table columns =
      (catalog.indexes table columns).map (Target.ofCarrier fun index => .append index.column) :=
  targets_eq_carriers (fun _ => rfl) columns

/-- The shadows that the blind index has appended are no targets of the join. -/
theorem JoinShadow.targets_shadows (apart : catalog.ShadowsApart table) (columns : List Ident) :
    (treatment catalog).targets catalog table
        (columns ++ (catalog.indexes table columns).map
          (fun carrier => (⟨carrier.2.2.column, none⟩ : Ident))) =
      (catalog.joins table columns).map (Target.ofCarrier fun shadow => .append shadow) := by
  rw [targets_eq_carriers (fun _ => rfl),
    Catalog.carriers_append (apart.idle_indexes fun _ _ => ColumnRule.isProtected_of_joinShadow)]
  rfl

/-- No shadow at all is a target of encryption. -/
theorem Encryption.targets_sentColumns (apart : catalog.ShadowsApart table)
    (columns : List Ident) :
    treatment.targets catalog table (catalog.sentColumns table columns) =
      (catalog.keys table columns).map (Target.ofCarrier fun _ => .replace) := by
  have idle : ∀ column ∈
      (catalog.indexes table columns).map (fun carrier => (⟨carrier.2.2.column, none⟩ : Ident))
        ++ (catalog.joins table columns).map (fun carrier => (⟨carrier.2.2, none⟩ : Ident)),
      ∀ rule, catalog.rule? table column.normal = some rule → rule.encryptionKey = none := by
    intro column member
    rcases List.mem_append.mp member with isIndex | isJoin
    · exact apart.idle_indexes (fun _ _ => ColumnRule.isProtected_of_encryptionKey)
        column isIndex
    · exact apart.idle_joins (fun _ _ => ColumnRule.isProtected_of_encryptionKey)
        column isJoin
  rw [targets_eq_carriers (fun _ => rfl), Catalog.sentColumns, List.append_assoc,
    Catalog.carriers_append idle]
  rfl

/-! ### The three passes -/

/--
The three shields make one insertion of an insertion of literals: its columns
are those to be sent, and each row has gone through all three treatments.
-/
theorem walkInsert_chain {insert first second third : Insert} {rows : List (List Expr)}
    (ofLiterals : insert.OfLiterals rows) (named : insert.table.last? = some table)
    (protects : catalog.isProtected table = true) (apart : catalog.ShadowsApart table)
    {beforeIndex afterIndex : Traversal Unit} {beforeJoin afterJoin : Traversal JoinShadow.State}
    {beforeSeal afterSeal : Traversal Encryption.State}
    (indexRun :
      Gives (walkInsert (IndexShadow.visitor catalog) insert) beforeIndex first afterIndex)
    (joinRun : Gives (walkInsert (JoinShadow.visitor catalog) first) beforeJoin second afterJoin)
    (sealRun : Gives (walkInsert (Encryption.visitor catalog) second) beforeSeal third afterSeal) :
    ∃ indexed joined sent,
      third = insert.carrying (catalog.sentColumns table insert.columns) sent ∧
        List.Forall₂
          (IndexShadow.treatment.Treats insert.columns.length
            ((catalog.indexes table insert.columns).map
              (Target.ofCarrier fun index => .append index.column)))
          rows indexed ∧
        List.Forall₂
          ((JoinShadow.treatment catalog).Treats
            (insert.columns.length + (catalog.indexes table insert.columns).length)
            ((catalog.joins table insert.columns).map
              (Target.ofCarrier fun shadow => .append shadow)))
          indexed joined ∧
        List.Forall₂
          (Encryption.treatment.Treats
            (insert.columns.length + (catalog.indexes table insert.columns).length
              + (catalog.joins table insert.columns).length)
            ((catalog.keys table insert.columns).map (Target.ofCarrier fun _ => .replace)))
          joined sent := by
  rcases walkInsert_treats rfl IndexShadow.literal?_value ofLiterals named protects indexRun with
    ⟨indexed, rfl, firstLiterals, indexedRows⟩
  rw [IndexShadow.targets_columns, shadows_carriers] at joinRun firstLiterals
  rw [IndexShadow.targets_columns] at indexedRows
  rcases walkInsert_treats rfl (fun run => literal?_stored (JoinShadow.stored_of_gives run))
      firstLiterals (by rw [Insert.table_carrying]; exact named) protects joinRun with
    ⟨joined, rfl, secondLiterals, joinedRows⟩
  rw [Insert.columns_carrying, Insert.carrying_carrying ofLiterals.brings,
    JoinShadow.targets_shadows apart, shadows_carriers] at sealRun secondLiterals
  rw [Insert.columns_carrying, JoinShadow.targets_shadows apart, List.length_append,
    List.length_map] at joinedRows
  rcases walkInsert_treats rfl Encryption.literal?_value secondLiterals
      (by rw [Insert.table_carrying]; exact named) protects sealRun with
    ⟨sent, rfl, _, sentRows⟩
  have sealTargets := Encryption.targets_sentColumns apart insert.columns
  rw [Insert.columns_carrying, ← Catalog.sentColumns, sealTargets] at sentRows
  rw [Catalog.sentColumns, List.length_append, List.length_append, List.length_map,
    List.length_map] at sentRows
  refine ⟨indexed, joined, sent, ?_, indexedRows, joinedRows, sentRows⟩
  rw [Insert.columns_carrying, Insert.carrying_carrying ofLiterals.brings,
    ← Catalog.sentColumns, sealTargets, shadows_replaced, List.append_nil]

/--
In a text that the chain accepts, an insertion of literals into a protected table
is sent with the client's columns, the shadows of the indexed ones and the shadows
of the joined ones.  If a listed column is protected, each row has one literal for
each listed column and is sent with one value for each column that is sent, all of
them stored for the client's own literals.  If none is, the insertion is sent as it
is.
-/
theorem chain_stores_literals (catalog : Catalog) (statements result : List Statement)
    (before after : ChainState)
    (accepted : Gives (catalog.chain.protect statements) before result after)
    (index : Nat) (insert : Insert) (found : statements[index]? = some (.insert insert))
    (table : String) (named : insert.table.last? = some table)
    (protects : catalog.isProtected table = true) (apart : catalog.ShadowsApart table)
    (rows : List (List Expr)) (ofLiterals : insert.OfLiterals rows) :
    ∃ sent,
      result[index]? =
          some (.insert (insert.carrying (catalog.sentColumns table insert.columns) sent)) ∧
        (insert.columns.any (catalog.protectsColumn table) = true →
          List.Forall₂
            (fun row sentRow =>
              sentRow.length = (catalog.sentColumns table insert.columns).length ∧
                ∃ own indexes joins,
                  sentRow = own ++ indexes ++ joins ∧
                    Sent catalog table insert.columns row own indexes joins)
            rows sent) ∧
        (insert.columns.any (catalog.protectsColumn table) = false →
          insert.carrying (catalog.sentColumns table insert.columns) sent = insert) := by
  rcases Shield.gives_protect_andThen_iff.mp accepted with ⟨first, indexRun, rest⟩
  rcases Shield.gives_protect_andThen_iff.mp rest with ⟨second, joinRun, sealRun⟩
  simp only [JoinShadow.shield, gives_bind_iff] at joinRun
  simp only [Encryption.shield, gives_bind_iff] at sealRun
  rcases joinRun with ⟨_, _, _, joinRun⟩
  rcases sealRun with ⟨_, _, _, sealRun⟩
  rcases exists_gives_walkInsert indexRun found with ⟨indexedInsert, _, _, indexPlace, indexWalk⟩
  rcases exists_gives_walkInsert joinRun indexPlace with ⟨joinedInsert, _, _, joinPlace, joinWalk⟩
  rcases exists_gives_walkInsert sealRun joinPlace with ⟨sentInsert, _, _, sentPlace, sealWalk⟩
  rcases walkInsert_chain ofLiterals named protects apart indexWalk joinWalk sealWalk with
    ⟨indexed, joined, sent, rfl, indexedRows, joinedRows, sentRows⟩
  refine ⟨sent, sentPlace, ?_, ?_⟩
  · intro some
    have touched := Catalog.touched_of_any some
    refine (forall₂_comp (forall₂_comp indexedRows joinedRows) sentRows).imp ?_
    rintro row sentRow ⟨joinedRow, ⟨indexedRow, indexes, joins⟩, seals⟩
    rcases sent_of_treats touched indexes joins seals with
      ⟨own, indexValues, joinValues, rfl, isSent⟩
    refine ⟨?_, own, indexValues, joinValues, rfl, isSent⟩
    have indexCount := isSent.indexed.length_eq
    have joinCount := isSent.joined.length_eq
    simp only [Catalog.sentColumns, List.length_append, List.length_map, isSent.ownLength]
    omega
  · intro none
    have noIndexes : catalog.indexes table insert.columns = [] :=
      Catalog.carriers_eq_nil none fun _ _ => ColumnRule.isProtected_of_blindIndex
    have noJoins : catalog.joins table insert.columns = [] :=
      Catalog.carriers_eq_nil none fun _ _ => ColumnRule.isProtected_of_joinShadow
    have noKeys : catalog.keys table insert.columns = [] :=
      Catalog.carriers_eq_nil none fun _ _ => ColumnRule.isProtected_of_encryptionKey
    rw [noIndexes, List.map_nil] at indexedRows
    rw [noJoins, List.map_nil] at joinedRows
    rw [noKeys, List.map_nil] at sentRows
    have same : List.Forall₂ Eq rows sent := by
      refine (forall₂_comp (forall₂_comp indexedRows joinedRows) sentRows).imp ?_
      rintro row sentRow ⟨joinedRow, ⟨indexedRow, indexes, joins⟩, seals⟩
      rw [indexes.eq_of_nil, joins.eq_of_nil, seals.eq_of_nil]
    rw [List.forall₂_eq_eq_eq] at same
    rw [Catalog.sentColumns, noIndexes, noJoins, List.map_nil, List.map_nil, List.append_nil,
      List.append_nil, ← same]
    exact Insert.carrying_self ofLiterals.brings

/-! ## An example -/

/-- Cities whose ids are joined, and whose names are encrypted and found through an index. -/
def citiesCatalog : Catalog :=
  (Catalog.insert {} "cities" (ColumnRule.plain "id" .int4).joined).insert "cities"
    (((ColumnRule.plain "name" .text).encrypted (List.replicate 32 3)).indexed
      (List.replicate 32 4))

/-- The insertion of rows of values into columns of the cities. -/
def intoCities (columns : List String) (rows : List (List Expr)) : Insert where
  words := "INSERT INTO"
  table := [⟨"cities", none⟩]
  aliasName := none
  columns := columns.map fun name => ⟨name, none⟩
  partition := []
  source := some (.mk false [] (.values false rows) [] [])
  conflict := .none
  returning := none

theorem shadowsApart_citiesCatalog : citiesCatalog.ShadowsApart "cities" :=
  Catalog.shadowsApart_of_rules (by decide)

/-- A row with a literal for each listed column and a row of NULLs. -/
def cityRows : List (List Expr) :=
  [[.value (.number "7" false), .value (.string "Ulm")], [.null, .null]]

theorem ofLiterals_cityRows : (intoCities ["id", "name"] cityRows).OfLiterals cityRows := by
  constructor
  · rfl
  · decide
  · rfl
  · rfl

/-- Both rows are accepted and sent with the shadows of the name and of the id. -/
theorem cityRows_stored :
    let insert := intoCities ["id", "name"] cityRows
    let columns : List Ident :=
      [⟨"id", none⟩, ⟨"name", none⟩, ⟨"name_bi", none⟩, ⟨"id_join", none⟩]
    ∃ result after sent,
      Gives (citiesCatalog.chain.protect [.insert insert])
          (.initial { stream := fun _ => 0 }) result after ∧
        citiesCatalog.isProtected "cities" = true ∧ citiesCatalog.ShadowsApart "cities" ∧
          insert.OfLiterals cityRows ∧
            result[0]? = some (.insert (insert.carrying columns sent)) ∧
              List.Forall₂
                (fun row sentRow => sentRow.length = 4 ∧
                  ∃ own indexes joins, sentRow = own ++ indexes ++ joins ∧
                    Sent citiesCatalog "cities" insert.columns row own indexes joins)
                cityRows sent := by
  have accepts : ∃ result after,
      Gives (citiesCatalog.chain.protect [.insert (intoCities ["id", "name"] cityRows)])
        (.initial { stream := fun _ => 0 }) result after :=
    exists_gives_of_isOk rfl
  rcases accepts with ⟨result, after, accepted⟩
  have isProtected : citiesCatalog.isProtected "cities" = true := by decide
  rcases chain_stores_literals citiesCatalog _ result _ after accepted 0 _ rfl "cities" rfl
    isProtected shadowsApart_citiesCatalog cityRows ofLiterals_cityRows with
    ⟨sent, place, stored, _⟩
  exact ⟨result, after, sent, accepted, isProtected, shadowsApart_citiesCatalog,
    ofLiterals_cityRows, place, stored (by decide)⟩

/-- One row of two values. -/
def wideRow : List (List Expr) :=
  [[.value (.number "7" false), .value (.string "Ulm")]]

/-- Where no listed column is protected, a row with too many values passes. -/
theorem wideRow_passes :
    let insert := intoCities ["note"] wideRow
    Gives (citiesCatalog.chain.protect [.insert insert]) (.initial { stream := fun _ => 0 })
        [.insert insert]
        ((citiesCatalog.chain.protect [.insert insert]).run.run
          (.initial { stream := fun _ => 0 })).2 ∧
      citiesCatalog.isProtected "cities" = true ∧ citiesCatalog.ShadowsApart "cities" ∧
        insert.OfLiterals wideRow ∧
          ∃ row ∈ wideRow,
            row.length ≠ (citiesCatalog.sentColumns "cities" insert.columns).length := by
  refine ⟨?_, by decide, shadowsApart_citiesCatalog, ?_, wideRow.head!, ?_, ?_⟩
  · refine Prod.ext ?_ rfl
    rfl
  · exact ⟨rfl, by decide, rfl, rfl⟩
  · exact List.mem_cons_self
  · decide

end ColumnVeil
