import ColumnVeil.Proofs.Shield.Confinement
import ColumnVeil.Proofs.Shield.Renewal
import Mathlib.Data.Prod.Basic

/-!
# What a statement registers

While a statement is traversed, the shields of the chain register what they need for its
results: the columns behind its output names, and the columns that it joins.  This is told from
the traversals of two texts, that of the statements before and that of the same statements with
this one behind them, both from a chain that has not seen a query.  Only the source of random
bytes is the one at hand, which goes on from query to query.

Behind a whole text the chain still knows what each of its statements has registered.  Then a
description and the rows behind it are read by the registration of their statement alone.
-/

namespace ColumnVeil

open Sql

/-- What is registered of a statement for its results. -/
structure Registration where
  /-- The output names, as the shield for joins knows them. -/
  joined : ResultColumns
  /-- The pairs of columns that are joined. -/
  pairs : List (ColumnRef × ColumnRef)
  /-- The output names, as the shield for encrypted columns knows them. -/
  shown : ResultColumns

/--
What the chain registers while it traverses the statement at an index: the output names that
the statement leaves, and the pairs that come behind those of the statements before, under its
index.
-/
inductive Catalog.Registers (catalog : Catalog) (entropy : Crypto.Entropy)
    (statements : List Statement) (index : Nat) : Registration → Prop where
  | traversed {passed sent : List Statement} {before after : ChainState}
      {joined shown : ResultColumns} {pairs : List (ColumnRef × ColumnRef)} :
      index < statements.length →
        Gives (catalog.chain.protect (statements.take index)) (.initial entropy) passed before →
          Gives (catalog.chain.protect (statements.take (index + 1))) (.initial entropy) sent
              after →
            after.2.1.scope.current = some joined →
              after.2.1.own.pairs = before.2.1.own.pairs ++ pairs.map (index, ·) →
                after.2.2.scope.current = some shown →
                  Catalog.Registers catalog entropy statements index ⟨joined, pairs, shown⟩

/-- There is one registration of a statement. -/
theorem Catalog.Registers.unique {catalog : Catalog} {entropy : Crypto.Entropy}
    {statements : List Statement} {index : Nat} {first second : Registration}
    (one : catalog.Registers entropy statements index first)
    (other : catalog.Registers entropy statements index second) : first = second := by
  rcases one with ⟨-, earlier, through, joined, pairs, shown⟩
  rcases other with ⟨-, otherEarlier, otherThrough, otherJoined, otherPairs, otherShown⟩
  cases earlier.symm.trans otherEarlier
  cases through.symm.trans otherThrough
  cases joined.symm.trans otherJoined
  cases shown.symm.trans otherShown
  have numbered := List.append_cancel_left (pairs.symm.trans otherPairs)
  have same := List.map_injective_iff.mpr (Prod.mk_right_injective index) numbered
  rw [same]

/-! ## Reading results -/

/-- What a description settles for its result set: the columns as the client gets them, the
encrypted ones among them, and the positions that are compared in each row. -/
structure Reading where
  columns : List Wire.Column
  marks : List (Option Encryption.EncryptedColumn)
  compared : List (Nat × Nat)

/-- A description is read by what is registered of one statement. -/
def Registration.read? (registration : Registration) (catalog : Catalog)
    (columns : List Wire.Column) : Option Reading := do
  let described ← columns.mapM (Encryption.described? catalog (some registration.shown))
  let compared ← registration.pairs.mapM fun pair =>
    JoinShadow.positions? registration.joined (columns.map Wire.Column.label) pair.1 pair.2
  return ⟨described, Encryption.marks catalog (some registration.shown) columns, compared⟩

/-- A row is decrypted at the marked positions, and discarded if it differs at compared ones. -/
def Reading.inspect? (reading : Reading) (row : Row) : Option (RowAction × Row) :=
  (Encryption.decryptRow reading.marks row).toOption.map fun opened =>
    (if reading.compared.any (JoinShadow.differs opened) then .discard else .keep, opened)

/-! ## One statement among others -/

section Shields

variable {catalog : Catalog} {statements result : List Statement} {index : Nat}

/-- A text is walked through from the same state, whatever the shield has seen before. -/
theorem IndexShadow.gives_protect_iff {before after : Traversal Unit} :
    Gives ((shield catalog).protect statements) before result after ↔
      Gives (walkStatementsFrom (visitor catalog) statements) { own := () } result after := by
  simp only [shield, walkStatements, gives_bind_iff, Walk.gives_changeScope_iff]
  exact ⟨fun ⟨_, _, reset, run⟩ => reset ▸ run, fun run => ⟨(), _, rfl, run⟩⟩

theorem JoinShadow.gives_protect_iff {before after : Traversal JoinShadow.State} :
    Gives ((shield catalog).protect statements) before result after ↔
      Gives (walkStatementsFrom (visitor catalog) statements) { own := {} } result after := by
  simp only [shield, walkStatements, gives_bind_iff, gives_modify_iff, Walk.gives_changeScope_iff]
  constructor
  · rintro ⟨_, _, rfl, _, _, rfl, run⟩
    exact run
  · exact fun run => ⟨(), _, rfl, (), _, rfl, run⟩

theorem Encryption.gives_protect_iff {before after : Traversal Encryption.State} :
    Gives ((shield catalog).protect statements) before result after ↔
      Gives (walkStatementsFrom (visitor catalog) statements)
        { own := { entropy := before.own.entropy } } result after := by
  simp only [shield, walkStatements, gives_bind_iff, gives_modify_iff, Walk.gives_changeScope_iff]
  constructor
  · rintro ⟨_, _, rfl, _, _, rfl, run⟩
    exact run
  · exact fun run => ⟨(), _, rfl, (), _, rfl, run⟩

/-- The beginnings of a text pass the shield for indexed columns on their own. -/
theorem IndexShadow.exists_passage {before after : Traversal Unit}
    (run : Gives ((shield catalog).protect statements) before result after)
    (within : index < statements.length) :
    index < result.length ∧ ∃ start last,
      Gives ((shield catalog).protect (statements.take index)) { own := () } (result.take index)
        start ∧
        Gives ((shield catalog).protect (statements.take (index + 1))) { own := () }
          (result.take (index + 1)) last := by
  rcases exists_visit_at (gives_protect_iff.mp run) (List.getElem?_eq_getElem within) with
    ⟨start, walked, last, place, earlierRun, -, throughRun, -⟩
  exact ⟨(List.getElem?_eq_some_iff.mp place).1, start, last, gives_protect_iff.mpr earlierRun,
    gives_protect_iff.mpr throughRun⟩

namespace JoinShadow

/-- What a statement adds are pairs under its number. -/
theorem Adds.exists_pairs {before after : Traversal State}
    (adds : Adds (fun _ => True) (opened before) after) :
    ∃ pairs : List (ColumnRef × ColumnRef),
      after.own.pairs = before.own.pairs ++ pairs.map (before.scope.statementCount, ·) := by
  rcases adds.added rfl with ⟨added, pairs, own⟩
  refine ⟨added.map Prod.snd, ?_⟩
  have numbered : (added.map Prod.snd).map (before.scope.statementCount, ·) = added := by
    rw [List.map_map]
    refine (List.map_congr_left fun entry member => ?_).trans (List.map_id added)
    have number := (own entry member).1
    rw [length_earlier_opened] at number
    exact Prod.ext number.symm rfl
  rw [numbered, pairs, opened]

/-- Items that leave nothing do not matter on either side of others. -/
theorem filterMap_between {α β : Type} {choose : α → Option β} {former items latter : List α}
    (nothing : ∀ item ∈ former ++ latter, choose item = none) :
    (former ++ items ++ latter).filterMap choose = items.filterMap choose := by
  rcases List.forall_mem_append.mp nothing with ⟨before, behind⟩
  rw [List.filterMap_append, List.filterMap_append, List.filterMap_eq_nil_iff.mpr before,
    List.filterMap_eq_nil_iff.mpr behind, List.nil_append, List.append_nil]

/-- The pairs of a statement are told from the others by their number. -/
theorem pairsOf_of_apart {state : Traversal State}
    {former latter : List (Nat × ColumnRef × ColumnRef)} {pairs : List (ColumnRef × ColumnRef)}
    (made : state.own.pairs = former ++ pairs.map (index, ·) ++ latter)
    (apart : ∀ entry ∈ former ++ latter, entry.1 ≠ index) : pairsOf state index = pairs := by
  rw [pairsOf, made]
  refine (filterMap_between fun entry member => if_neg (apart entry member)).trans ?_
  simp

/-- Behind a text, the shield for joins knows what a statement of it has registered. -/
theorem exists_registered {before after : Traversal State}
    (run : Gives ((shield catalog).protect statements) before result after)
    (within : index < statements.length) :
    index < result.length ∧ ∃ start last joined pairs,
      Gives ((shield catalog).protect (statements.take index)) { own := {} } (result.take index)
        start ∧
        Gives ((shield catalog).protect (statements.take (index + 1))) { own := {} }
          (result.take (index + 1)) last ∧
          last.scope.current = some joined ∧
            last.own.pairs = start.own.pairs ++ pairs.map (index, ·) ∧
              after.scope.results? index = some joined ∧ pairsOf after index = pairs := by
  rcases (steadfast_visitor.coarsen Adds.inside).exists_visit (gives_protect_iff.mp run) within with
    ⟨place, start, walked, last, joined, number, earlierRun, walk, throughRun, laterRun, current,
      results⟩
  have adds : Adds (fun _ => True) (opened start) last := steadfast_visitor.statement _ walk
  rcases adds.exists_pairs with ⟨pairs, made⟩
  rw [number] at made
  refine ⟨place, start, last, joined, pairs, gives_protect_iff.mpr earlierRun,
    gives_protect_iff.mpr throughRun, current, made, results, ?_⟩
  -- The statements before have lower numbers, the ones behind have higher.
  rcases continues_of_gives_walkStatementsFrom earlierRun with ⟨former, -⟩
  rcases continues_of_gives_walkStatementsFrom laterRun with ⟨latter, -⟩
  rcases former.added with ⟨beforehand, formerPairs, formerNumbers⟩
  rcases latter.added with ⟨afterwards, latterPairs, latterNumbers⟩
  have next := adds.continues.2.1
  rw [made] at latterPairs
  refine pairsOf_of_apart latterPairs fun entry member => ?_
  rcases List.mem_append.mp member with early | late
  · rw [formerPairs] at early
    have numbers := formerNumbers entry early
    omega
  · have numbers := latterNumbers entry late
    omega

end JoinShadow

namespace Encryption

/-- Only the source of random bytes changes while a value is encrypted. -/
theorem scope_of_gives_treatment {rule : ColumnRule} {literal : Literal} {value : Expr}
    {before after : Traversal State}
    (run : Gives (treatment.value rule literal) before value after) :
    after.scope = before.scope := by
  simp only [treatment] at run
  split at run
  · rename_i key keyed
    rcases gives_bind_iff.mp run with ⟨found, middle, encoded, rest⟩
    rcases Walk.gives_ofExcept_iff.mp encoded with ⟨known, rfl⟩
    cases found with
    | none =>
        rcases gives_pure_iff.mp rest with ⟨-, rfl⟩
        rfl
    | some plaintext =>
        rw [Gives, run_value known] at run
        split at run
        · cases run
          rfl
        · cases run
  · rcases gives_pure_iff.mp run with ⟨-, rfl⟩
    rfl

theorem keeps_treatment : treatment.Keeps Inside := by
  intro rule literal before after value run
  have kept := scope_of_gives_treatment run
  exact ⟨by rw [kept], by rw [kept]; exact id⟩

/-- The visitor for encrypted columns stays inside the statement that it is in. -/
theorem steadfast_visitor : (visitor catalog).Steadfast Inside where
  tame :=
    { columns := by rintro _ ⟨⟩
      reference := by
        intro context expr isColumn before after result run
        have same : expr = result ∧ before = after := by
          rcases Visitor.gives_reference_iff.mp run with ⟨-, unchanged⟩ | ⟨column, -, visit⟩
          · exact unchanged
          · exact (gives_column_iff.mp visit).2
        rcases same with ⟨rfl, rfl⟩
        exact ⟨rfl, Steady.refl before, isColumn, Or.inl rfl, id⟩
      operation := fun _ _ _ _ _ => .pure (by rintro _ ⟨⟩)
      membership := fun _ _ _ => .pure (by rintro _ ⟨⟩)
      wildcard := by
        intro before after result run
        rcases gives_refuseProtected_iff.mp run with ⟨-, rfl⟩
        exact ⟨rfl, Steady.refl before, trivial⟩
      unsupported := fun _ _ _ _ run => (gives_refuseProtected_iff.mp run).2 }
  insert := keeps_treatment.insertion
  update := keeps_treatment.alteration
  other := by
    intro before after result run
    rcases gives_refuseProtected_iff.mp run with ⟨-, rfl⟩
    exact Steady.refl before

/-- Behind a text, the shield for encrypted columns knows what a statement of it has
registered. -/
theorem exists_registered {before after : Traversal State}
    (run : Gives ((shield catalog).protect statements) before result after)
    (within : index < statements.length) :
    ∃ start last shown,
      Gives ((shield catalog).protect (statements.take index))
        { own := { entropy := before.own.entropy } } (result.take index) start ∧
        Gives ((shield catalog).protect (statements.take (index + 1)))
          { own := { entropy := before.own.entropy } } (result.take (index + 1)) last ∧
          last.scope.current = some shown ∧ after.scope.results? index = some shown := by
  rcases steadfast_visitor.exists_visit (gives_protect_iff.mp run) within with
    ⟨-, start, -, last, shown, -, earlierRun, -, throughRun, -, current, results⟩
  exact ⟨start, last, shown, gives_protect_iff.mpr earlierRun, gives_protect_iff.mpr throughRun,
    current, results⟩

end Encryption

end Shields

/-! ## The chain -/

namespace ChainState

/-- What the chain has settled for the result set at hand, under the columns that it shows. -/
def reading (state : ChainState) (columns : List Wire.Column) : Reading :=
  ⟨columns, state.2.2.own.results, state.2.1.own.active⟩

/-- The chain knows what is registered of a statement. -/
structure Knows (state : ChainState) (index : Nat) (registration : Registration) : Prop where
  joined : state.2.1.scope.results? index = some registration.joined
  pairs : JoinShadow.pairsOf state.2.1 index = registration.pairs
  shown : state.2.2.scope.results? index = some registration.shown

/-- What is known of the statements of a query is still known. -/
structure Remembers (asked state : ChainState) : Prop where
  joined : state.2.1.scope = asked.2.1.scope
  pairs : state.2.1.own.pairs = asked.2.1.own.pairs
  shown : state.2.2.scope = asked.2.2.scope

variable {catalog : Catalog} {asked state later : ChainState}

theorem Remembers.refl (state : ChainState) : Remembers state state :=
  ⟨rfl, rfl, rfl⟩

theorem Remembers.trans (former : Remembers asked state) (latter : Remembers state later) :
    Remembers asked later where
  joined := latter.joined.trans former.joined
  pairs := latter.pairs.trans former.pairs
  shown := latter.shown.trans former.shown

theorem Remembers.knows (remembers : Remembers asked state) {index : Nat} {registration : Registration}
    (knows : asked.Knows index registration) : state.Knows index registration where
  joined := remembers.joined ▸ knows.joined
  pairs := by rw [JoinShadow.pairsOf, remembers.pairs, ← JoinShadow.pairsOf, knows.pairs]
  shown := remembers.shown ▸ knows.shown

end ChainState

section Chain

variable {catalog : Catalog} {before after : ChainState}

/-- Behind a text, whatever was asked before it, the chain knows what each of its statements
registers. -/
theorem exists_registered {statements sent : List Statement} {index : Nat}
    (run : Gives (catalog.chain.protect statements) before sent after)
    (within : index < statements.length) :
    ∃ registration, catalog.Registers before.entropy statements index registration ∧
      after.Knows index registration := by
  rcases Shield.gives_protect_andThen_iff.mp run with ⟨indexed, indexRun, rest⟩
  rcases Shield.gives_protect_andThen_iff.mp rest with ⟨joined, joinRun, sentRun⟩
  rcases IndexShadow.exists_passage indexRun within with
    ⟨indexedWithin, indexStart, indexLast, indexBefore, indexThrough⟩
  rcases JoinShadow.exists_registered joinRun indexedWithin with
    ⟨joinedWithin, joinStart, joinLast, results, pairs, joinBefore, joinThrough, joinCurrent,
      joinPairs, joinResults, knownPairs⟩
  rcases Encryption.exists_registered sentRun joinedWithin with
    ⟨sentStart, sentLast, shown, sentBefore, sentThrough, sentCurrent, sentResults⟩
  refine ⟨⟨results, pairs, shown⟩, ?_, joinResults, knownPairs, sentResults⟩
  have earlierRun : Gives (catalog.chain.protect (statements.take index))
      (.initial before.entropy) (sent.take index) (indexStart, joinStart, sentStart) :=
    Shield.gives_protect_andThen_iff.mpr
      ⟨_, indexBefore, Shield.gives_protect_andThen_iff.mpr ⟨_, joinBefore, sentBefore⟩⟩
  have throughRun : Gives (catalog.chain.protect (statements.take (index + 1)))
      (.initial before.entropy) (sent.take (index + 1)) (indexLast, joinLast, sentLast) :=
    Shield.gives_protect_andThen_iff.mpr
      ⟨_, indexThrough, Shield.gives_protect_andThen_iff.mpr ⟨_, joinThrough, sentThrough⟩⟩
  exact .traversed within earlierRun throughRun joinCurrent joinPairs sentCurrent

/-- A description that is accepted is read by what is registered of its statement. -/
theorem read?_of_gives {columns described : List Wire.Column} {index : Nat}
    (run : Gives (catalog.chain.describe columns index) before described after) :
    before.Remembers after ∧ ∀ registration, before.Knows index registration →
      registration.read? catalog columns = some (after.reading described) := by
  rw [Gives, Catalog.chain, Shield.run_describe_andThen, Shield.run_describe_andThen] at run
  rcases opens : ((Encryption.shield catalog).describe columns index).run.run before.2.2 with
    ⟨failure | opened, reached⟩
  · rw [opens] at run
    cases run
  have opening : Gives (Encryption.describe catalog columns index) before.2.2 opened reached := opens
  rcases Encryption.shown_of_describe opening with ⟨shown, labels, scope⟩
  have marked := Encryption.results_of_describe opening
  have joins : ((JoinShadow.shield catalog).describe opened index).run.run before.2.1 =
      (JoinShadow.describe opened index).run.run before.2.1 := rfl
  simp only [opens, joins, JoinShadow.run_describe] at run
  cases compared : JoinShadow.compared? before.2.1 (opened.map Wire.Column.label) index with
  | none =>
      rw [compared] at run
      cases run
  | some active =>
      rw [compared] at run
      cases run
      refine ⟨⟨rfl, rfl, scope⟩, fun registration knows => ?_⟩
      rw [knows.shown] at shown marked
      simp only [JoinShadow.compared?, knows.joined, knows.pairs, labels] at compared
      simp only [Registration.read?, shown, compared, ChainState.reading, marked]
      rfl

/-- A row that is accepted is inspected by what has been settled, and changes nothing. -/
theorem inspect?_of_gives {returned row : Row} {action : RowAction}
    (run : Gives (catalog.chain.inspect returned) before (action, row) after)
    (columns : List Wire.Column) :
    after = before ∧ (before.reading columns).inspect? returned = some (action, row) := by
  rw [Gives, run_inspect_chain] at run
  rw [Reading.inspect?, ChainState.reading]
  cases opened : Encryption.decryptRow before.2.2.own.results returned with
  | error failure =>
      rw [opened] at run
      cases run
  | ok opened =>
      rw [opened] at run
      cases run
      exact ⟨rfl, rfl⟩

end Chain

end ColumnVeil
