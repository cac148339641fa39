import ColumnVeil.Proofs.Shield.Decryption
import ColumnVeil.Proofs.Shield.Match
import ColumnVeil.Proofs.Shield.Protection
import ColumnVeil.Proofs.Traversal.Output

/-!
# Results and the items that they come from

The columns of a result are recognized by their names: the shield looks up each name among the
output names of the statement.  The main statement says that this finds for every item of the
projection the column that the item refers to, so that exactly the results of items that refer to
encrypted columns are described as what the client works with, and decrypted.

Only items that refer to columns have output names.  So the result of another item must not bear
an output name of an encrypted column: it would be taken for that column.
-/

namespace ColumnVeil

open Sql

/-! ## The names of result columns -/

namespace Sql

/-- The name that the result of an item bears, where the item tells it: its alias, or the name of
the column that it consists of. -/
def SelectItem.label? : SelectItem → Option String
  | .aliased _ aliasName => some aliasName.normal
  | .expr (.identifier ident) => some ident.normal
  | .expr (.compound parts) => parts.getLast?.map Ident.normal
  | _ => none

/-- A column of a result bears the name that its item tells. -/
def SelectItem.Labels (item : SelectItem) (column : Wire.Column) : Prop :=
  ∀ label, item.label? = some label → column.label = label

end Sql

/-- A name without qualifier means a column of that name, or the column behind an output name. -/
theorem Scope.of_resolveIn {scope : Scope} {name : String} {column : ColumnRef}
    (frames : List Frame) (means : scope.resolveIn name frames = .ok (some column)) :
    column.column = name ∨ scope.output? name = some column := by
  induction frames with
  | nil => exact .inr (Except.ok.inj means)
  | cons frame rest inductionHypothesis =>
      rw [resolveIn] at means
      split at means
      · exact inductionHypothesis means
      · cases means
        exact .inl rfl
      · split at means
        · rename_i shown known
          cases means
          exact .inr known
        · cases means

/-- An item that refers to a column records it under the name of its result, or refers to it by
an output name that the result bears too. -/
theorem Sql.SelectItem.label?_of_output? {scope : Scope} {item : SelectItem} {name : String}
    {column : ColumnRef} (recorded : item.output? scope = some (name, column)) :
    ∃ label, item.label? = some label ∧ (name = label ∨ scope.output? label = some column) := by
  rcases SelectItem.output?_eq_some_iff.mp recorded with ⟨expr, aliasName, shows, means, rfl⟩
  cases item with
  | wildcard qualifier => cases shows
  | aliased shown name =>
      cases shows
      exact ⟨_, rfl, .inl rfl⟩
  | expr shown =>
      cases shows
      cases expr with
      | identifier ident => exact ⟨_, rfl, Scope.of_resolveIn _ means⟩
      | compound parts =>
          rw [Scope.resolve] at means
          split at means
          · rename_i own qualifier rest reversed
            split at means
            · cases means
              refine ⟨own.normal, ?_, .inl rfl⟩
              rw [SelectItem.label?, ← List.head?_reverse, reversed]
              rfl
            · cases means
          · cases means
      | _ => cases means

namespace Encryption

variable {catalog : Catalog}

/-! ## Marks by items -/

/-- The mark of a result column whose item refers to an encrypted column. -/
def mark? (catalog : Catalog) (output : Option (String × ColumnRef)) (column : Wire.Column) :
    Option EncryptedColumn := do
  let (_, reference) ← output
  let rule ← catalog.ruleOf? reference
  return { label := column.label, rule, key := ← rule.encryptionKey }

/-- The marks of the results of a selection, by its items. -/
def itemMarks (catalog : Catalog) (select : Select) (columns : List Wire.Column) :
    List (Option EncryptedColumn) :=
  List.zipWith (mark? catalog) select.outputs columns

/-- A result column is marked exactly if its item refers to an encrypted column. -/
theorem isSome_mark?_iff {output : Option (String × ColumnRef)} {column : Wire.Column} :
    (mark? catalog output column).isSome = true ↔
      ∃ name reference, output = some (name, reference) ∧ catalog.encrypts reference = true := by
  rcases output with _ | ⟨name, reference⟩
  · simp [mark?]
  · cases found : catalog.ruleOf? reference with
    | none => simp [mark?, Catalog.encrypts, found]
    | some rule => cases keyed : rule.encryptionKey <;> simp [mark?, Catalog.encrypts, found, keyed]

/-- What a name stands for decides on its mark. -/
theorem encrypted?_of_column? {results : ResultColumns} {column : Wire.Column}
    {reference : ColumnRef} (known : results.column? column.label = some reference)
    (name : String) :
    encrypted? catalog (some results) column.label =
      mark? catalog (some (name, reference)) column := by
  simp [encrypted?, mark?, known]

/-- A name that stands for no encrypted column has no mark. -/
theorem encrypted?_of_bare {results : ResultColumns} {column : Wire.Column}
    (bare : ∀ reference, results.column? column.label = some reference →
      catalog.encrypts reference = false) :
    encrypted? catalog (some results) column.label = none := by
  cases known : results.column? column.label with
  | none => simp [encrypted?, known]
  | some reference =>
      rw [encrypted?_of_column? known column.label, ← Option.not_isSome_iff_eq_none,
        isSome_mark?_iff]
      rintro ⟨name, other, same, encrypted⟩
      cases same
      rw [bare reference known] at encrypted
      cases encrypted

/-- The marks of results by their names are those by their items. -/
theorem marks_eq_zipWith {results : ResultColumns} {items : List SelectItem}
    {columns : List Wire.Column} (labelled : List.Forall₂ SelectItem.Labels items columns)
    {scope : Scope}
    (before : ∀ name reference, scope.output? name = some reference →
      results.column? name = some reference)
    (recorded : ∀ name reference, some (name, reference) ∈ SelectItem.outputs scope items →
      results.column? name = some reference)
    (apart : ∀ column, (none, column) ∈ (SelectItem.outputs scope items).zip columns →
      ∀ reference, results.column? column.label = some reference →
        catalog.encrypts reference = false) :
    marks catalog (some results) columns =
      List.zipWith (mark? catalog) (SelectItem.outputs scope items) columns := by
  induction labelled generalizing scope with
  | nil => rfl
  | @cons item column rest columns labels labelled inductionHypothesis =>
      rw [SelectItem.outputs] at recorded apart
      rw [SelectItem.outputs, marks, List.map_cons, List.zipWith_cons_cons, ← marks]
      congr 1
      · cases own : item.output? scope with
        | none =>
            refine encrypted?_of_bare (apart column ?_)
            rw [own]
            exact List.mem_cons_self
        | some output =>
            rcases output with ⟨name, reference⟩
            refine encrypted?_of_column? ?_ name
            rcases item.label?_of_output? own with ⟨label, told, rfl | known⟩
            · rw [labels _ told]
              exact recorded name reference (own ▸ List.mem_cons_self)
            · rw [labels _ told]
              exact before label reference known
      · refine inductionHypothesis (fun name reference known => ?_)
          (fun name reference later => recorded name reference (List.mem_cons_of_mem _ later))
          (fun column later => apart column (List.mem_cons_of_mem _ later))
        rcases SelectItem.of_output?_leave known with earlier | own
        · exact before name reference earlier
        · exact recorded name reference (own ▸ List.mem_cons_self)

/-! ## Descriptions and rows -/

/-- A column of a result as the client works with it. -/
def describedBy (mark : Option EncryptedColumn) (column : Wire.Column) : Wire.Column :=
  match mark with
  | some encrypted =>
      { column with typeOid := encrypted.rule.dataType, typeSize := encrypted.rule.width }
  | none => column

/-- Textual columns are described by their marks. -/
theorem exists_gives_describeColumns (catalog : Catalog) (results : Option ResultColumns)
    {columns : List Wire.Column}
    (textual : ∀ column ∈ columns, column.formatCode = 0) (before : Traversal State) :
    ∃ after, Gives (describeColumns catalog results columns) before
      (List.zipWith describedBy (marks catalog results columns) columns) after := by
  induction columns generalizing before with
  | nil => exact ⟨before, gives_pure_iff.mpr ⟨rfl, rfl⟩⟩
  | cons column columns inductionHypothesis =>
      rw [List.forall_mem_cons] at textual
      rcases textual with ⟨ownTextual, textual⟩
      rcases inductionHypothesis textual { before with own := { before.own with
        results := before.own.results ++ [encrypted? catalog results column.label] } } with
        ⟨after, rest⟩
      refine ⟨after, ?_⟩
      rw [marks, List.map_cons, List.zipWith_cons_cons, ← marks, describeColumns]
      cases mark : encrypted? catalog results column.label with
      | none =>
          rw [mark] at rest
          simp only [recordColumn, gives_bind_iff, gives_modify_iff, gives_pure_iff]
          exact ⟨(), _, rfl, _, _, ⟨rfl, rfl⟩, _, _, rest, rfl, rfl⟩
      | some encrypted =>
          rw [mark] at rest
          simp only [ownTextual, ne_eq, not_true_eq_false, if_false, recordColumn, gives_bind_iff,
            gives_modify_iff, gives_pure_iff]
          exact ⟨(), _, rfl, _, _, ⟨rfl, rfl⟩, _, _, rest, by simp only [describedBy, ownTextual], rfl⟩

/-- Textual columns are described by their marks, and the marks are kept for the rows. -/
theorem exists_gives_describe (catalog : Catalog) {columns : List Wire.Column}
    (textual : ∀ column ∈ columns, column.formatCode = 0) (statement : Nat)
    (before : Traversal State) :
    ∃ after, after.own.results = marks catalog (before.scope.results? statement) columns ∧
      Gives (describe catalog columns statement) before
        (List.zipWith describedBy after.own.results columns) after := by
  rcases exists_gives_describeColumns catalog (before.scope.results? statement) textual
    { before with own := { before.own with results := [] } } with ⟨after, run⟩
  have describes : Gives (describe catalog columns statement) before
      (List.zipWith describedBy (marks catalog (before.scope.results? statement) columns) columns)
        after := by
    simp only [describe, gives_bind_iff, gives_modify_iff, Walk.gives_scope_iff]
    exact ⟨(), _, rfl, _, _, ⟨rfl, rfl⟩, run⟩
  have kept := results_of_describe describes
  exact ⟨after, kept, kept ▸ describes⟩

/-- What the client gets for a value: the value of an encrypted column is decrypted, NULLs and
other values stay. -/
inductive Opens : Option EncryptedColumn → Option Bytes → Option Bytes → Prop where
  | decrypted {encrypted : EncryptedColumn} {returned text : Bytes} :
      decrypt? encrypted returned = some text → Opens (some encrypted) (some returned) (some text)
  | absent {mark : Option EncryptedColumn} : Opens mark none none
  | untouched {value : Option Bytes} : Opens none value value

theorem opens_iff {mark : Option EncryptedColumn} {value opened : Option Bytes} :
    Opens mark value opened ↔ decryptValue mark value = .ok opened := by
  constructor
  · rintro (found | _ | _)
    · simp only [decryptValue, found]
    · cases mark <;> rfl
    · rfl
  · intro decrypted
    rcases mark with _ | encrypted
    · cases decrypted
      exact .untouched
    · rcases value with _ | returned
      · cases decrypted
        exact .absent
      · rw [decryptValue] at decrypted
        cases found : decrypt? encrypted returned with
        | none =>
            rw [found] at decrypted
            cases decrypted
        | some text =>
            rw [found] at decrypted
            cases decrypted
            exact .decrypted found

/-- What the client gets for a row, position by position. -/
structure OpensRow (marks : List (Option EncryptedColumn)) (row opened : Row) : Prop where
  length : opened.length = row.length
  values : ∀ index value, row[index]? = some value →
    ∃ text, opened[index]? = some text ∧ Opens (markAt marks index) value text

theorem opensRow_iff {marks : List (Option EncryptedColumn)} {row opened : Row} :
    OpensRow marks row opened ↔ decryptRow marks row = .ok opened := by
  simp only [decryptRow_eq_ok_iff, ← opens_iff]
  exact ⟨fun opens => ⟨opens.length, opens.values⟩, fun ⟨length, values⟩ => ⟨length, values⟩⟩

/-! ## Results of a statement -/

/-- Behind an accepted text, the output names of a selection in it are those that its items
record. -/
theorem exists_outputs {statements result : List Statement} {before after : Traversal State}
    (accepted : Gives ((shield catalog).protect statements) before result after) {place : Nat}
    {query : Query} (asked : statements[place]? = some (.query query)) {select : Select}
    (selection : query.selection? = some select) :
    ∃ results, after.scope.results? place = some results ∧
      ∀ name reference,
        results.column? name = some reference ↔ some (name, reference) ∈ select.outputs := by
  rcases List.getElem?_eq_some_iff.mp asked with ⟨within, statement⟩
  rcases steadfast_visitor.exists_visit (gives_protect_iff.mp accepted) within with
    ⟨-, start, walked, last, results, -, -, walk, -, -, current, known⟩
  rw [statement] at walk
  rcases gives_bind_iff.mp walk with ⟨newQuery, _, queryRun, wrapped⟩
  rcases gives_pure_iff.mp wrapped with ⟨-, rfl⟩
  rcases outputs_of_gives_walkQuery steadfast_visitor.tame selection queryRun
    (Scope.begins_beginStatement start.scope) with ⟨shown, recorded⟩
  have same (name : String) : select.shown.output? name = results.column? name := by
    rw [Scope.output?, ← shown, current]
    rfl
  refine ⟨results, known, fun name reference => ?_⟩
  rw [← same]
  exact ⟨Select.exists_output, recorded name reference⟩

/--
Exactly the results of items that refer to encrypted columns are described anew and decrypted.
The shield has accepted a text with a selection, and gets the description of its result: a textual
column for each item, with the name that the item tells if it tells one.  If no column of an item
that refers to nothing bears an output name of an encrypted column, the description is given with
the types of the encrypted columns in their places.  A row is then given exactly if the values at
these places can be decrypted, and only they are.
-/
theorem results_follow_their_items (catalog : Catalog) (statements result : List Statement)
    (before sent : Traversal State)
    (accepted : Gives ((shield catalog).protect statements) before result sent) (place : Nat)
    (query : Query) (asked : statements[place]? = some (.query query)) (select : Select)
    (selection : query.selection? = some select) (columns : List Wire.Column)
    (labelled : List.Forall₂ SelectItem.Labels select.projection columns)
    (textual : ∀ column ∈ columns, column.formatCode = 0)
    (apart : ∀ column, (none, column) ∈ select.outputs.zip columns →
      ∀ reference, some (column.label, reference) ∈ select.outputs →
        catalog.encrypts reference = false) :
    ∃ settled,
      Gives ((shield catalog).describe columns place) sent
        (List.zipWith describedBy (itemMarks catalog select columns) columns) settled ∧
        ∀ row action opened after,
          Gives ((shield catalog).inspect row) settled (action, opened) after ↔
            action = .keep ∧ after = settled ∧
              OpensRow (itemMarks catalog select columns) row opened := by
  rcases exists_outputs accepted asked selection with ⟨results, known, outputs⟩
  have marked : marks catalog (some results) columns = itemMarks catalog select columns := by
    refine marks_eq_zipWith labelled ?_ (fun name reference => (outputs name reference).mpr) ?_
    · intro name reference earlier
      cases earlier
    · intro column other reference stands
      exact apart column other reference ((outputs _ _).mp stands)
  rcases exists_gives_describe catalog textual place sent with
    ⟨settled, settles, describes⟩
  rw [known, marked] at settles
  rw [settles] at describes
  refine ⟨settled, describes, fun row action opened after => ?_⟩
  rw [← settles, opensRow_iff]
  exact gives_inspect_iff

/-- The names of cities beside a constant under some name: `SELECT name, 1 AS … FROM cities`. -/
def namesBesideOne (label : String) : Select :=
  .mk [] [.expr (.identifier ⟨"name", none⟩), .aliased (.value (.number "1" false)) ⟨label, none⟩]
    "" [.mk (.table [⟨"cities", none⟩] [] none []) []] [] none [] [] none []

/-- How the server describes them. -/
def describesBesideOne (label : String) : List Wire.Column :=
  [{ name := Text.utf8 "name", typeOid := DataType.bytea, typeSize := -1 }, numbers label]

/-- The mark of the names of cities. -/
def markOfName : EncryptedColumn where
  label := "name"
  rule := (ColumnRule.plain "name" .text).encrypted (List.replicate 32 3)
  key := List.replicate 32 3

theorem labels_besideOne (label : String) (bears : (numbers label).label = label)
    (plain : (Ident.mk label none).normal = label) :
    List.Forall₂ SelectItem.Labels (namesBesideOne label).projection (describesBesideOne label) := by
  refine .cons (fun told same => ?_) (.cons (fun told same => ?_) .nil)
  · cases same
    decide +kernel
  · cases same
    exact bears.trans plain.symm

/-- The name of a city comes back beside the constant. -/
theorem besideOne_comes_back :
    ∃ payload sent settled, Encrypts (List.replicate 32 3) (Text.utf8 "Ulm") payload ∧
      Gives ((shield cityCatalog).protect [.query (alone (namesBesideOne "one"))]) freshState
          [.query (alone (namesBesideOne "one"))] sent ∧
        Gives ((shield cityCatalog).describe (describesBesideOne "one") 0) sent
            [texts "name", numbers "one"] settled ∧
          Gives ((shield cityCatalog).inspect
              [some (Text.utf8 ("\\x" ++ Hex.encode payload)), some (Text.utf8 "1")]) settled
            (.keep, [some (Text.utf8 "Ulm"), some (Text.utf8 "1")]) settled := by
  have accepted : Gives ((shield cityCatalog).protect [.query (alone (namesBesideOne "one"))])
      freshState [.query (alone (namesBesideOne "one"))]
      (((shield cityCatalog).protect [.query (alone (namesBesideOne "one"))]).run.run
        freshState).2 := by
    refine Prod.ext ?_ rfl
    rfl
  have outputs : (namesBesideOne "one").outputs = [some ("name", ⟨"cities", "name"⟩), none] := rfl
  have label : (numbers "one").label = "one" := by decide +kernel
  have marks : itemMarks cityCatalog (namesBesideOne "one") (describesBesideOne "one") =
      [some markOfName, none] := by
    decide +kernel
  have apart : ∀ column, (none, column) ∈ (namesBesideOne "one").outputs.zip
      (describesBesideOne "one") → ∀ reference,
        some (column.label, reference) ∈ (namesBesideOne "one").outputs →
          cityCatalog.encrypts reference = false := by
    intro column other reference stands
    rw [outputs, describesBesideOne] at other
    rw [outputs] at stands
    simp only [List.zip_cons_cons, List.zip_nil_right, List.mem_cons, Prod.mk.injEq,
      List.not_mem_nil, or_false, reduceCtorEq, false_and, true_and, false_or] at other
    rw [other, label] at stands
    simp at stands
  rcases results_follow_their_items cityCatalog _ _ freshState _ accepted 0 _ rfl _ rfl
    (describesBesideOne "one") (labels_besideOne "one" label rfl) (by decide) apart with
    ⟨settled, describes, rows⟩
  rw [marks] at describes
  have whole : ∃ payload, Encrypts (List.replicate 32 3) (Text.utf8 "Ulm") payload :=
    ⟨_, freshState.own.entropy, _, rfl⟩
  rcases whole with ⟨payload, encrypts⟩
  have read : markOfName.rule.plaintext (.string "Ulm") = .ok (some (Text.utf8 "Ulm")) := rfl
  have shows : Shows markOfName (Text.utf8 ("\\x" ++ Hex.encode payload)) (Text.utf8 "Ulm") :=
    shows_of_encrypts (ColumnRule.fits_of_plaintext read) encrypts
  have decrypted := decrypt?_of_shows shows
  refine ⟨payload, _, settled, encrypts, accepted, describes, (rows _ _ _ _).mpr ⟨rfl, rfl, rfl, ?_⟩⟩
  intro index value place
  rw [marks]
  rcases index with _ | _ | index
  · cases place
    exact ⟨_, rfl, .decrypted decrypted⟩
  · cases place
    exact ⟨_, rfl, .untouched⟩
  · cases place

/-- Once the constant bears the name of the encrypted column, its result is described as one of
that column, and no row with a constant is given. -/
theorem oneCalledName_is_taken_for_it :
    let columns := describesBesideOne "name"
    (namesBesideOne "name").outputs = [some ("name", ⟨"cities", "name"⟩), none] ∧
      List.Forall₂ SelectItem.Labels (namesBesideOne "name").projection columns ∧
        (∀ column ∈ columns, column.formatCode = 0) ∧
          ∃ sent settled,
            Gives ((shield cityCatalog).protect [.query (alone (namesBesideOne "name"))]) freshState
                [.query (alone (namesBesideOne "name"))] sent ∧
              Gives ((shield cityCatalog).describe columns 0) sent [texts "name", texts "name"]
                  settled ∧
                (((shield cityCatalog).inspect [none, some (Text.utf8 "1")]).run.run
                  settled).1.isOk = false := by
  intro columns
  have label : (numbers "name").label = "name" := by decide +kernel
  have textual : ∀ column ∈ columns, column.formatCode = 0 := by decide
  refine ⟨rfl, labels_besideOne "name" label rfl, textual, ?_⟩
  let sent := (((shield cityCatalog).protect [.query (alone (namesBesideOne "name"))]).run.run
    freshState).2
  have accepted : Gives ((shield cityCatalog).protect [.query (alone (namesBesideOne "name"))])
      freshState [.query (alone (namesBesideOne "name"))] sent := by
    refine Prod.ext ?_ rfl
    rfl
  rcases exists_gives_describe cityCatalog textual 0 sent with
    ⟨settled, settles, describes⟩
  have known : sent.scope.results? 0 = some ⟨[("name", ⟨"cities", "name"⟩)]⟩ := rfl
  have marked : marks cityCatalog (some ⟨[("name", ⟨"cities", "name"⟩)]⟩) columns =
      [some markOfName, some markOfName] := by
    decide +kernel
  rw [known, marked] at settles
  rw [settles] at describes
  have failed : ((decryptRow [some markOfName, some markOfName]
      [none, some (Text.utf8 "1")]).map (RowAction.keep, ·)).isOk = false := by
    decide +kernel
  refine ⟨sent, settled, accepted, describes, ?_⟩
  rw [shield, run_inspect, settles]
  exact failed

end Encryption

end ColumnVeil
