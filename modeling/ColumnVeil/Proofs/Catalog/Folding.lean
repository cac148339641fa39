import Mathlib.Data.List.Induction
import ColumnVeil.Catalog.Basic
import ColumnVeil.Proofs.Text.Case

/-!
# Columns are found whatever the case of their names

A catalog keeps a column under its name in lower case and folds the names it is asked by.  Folding
is lower case for every name with a capital letter and for every name without a title-case letter
(`foldCase_eq_lowercase_iff`): the names that `FoldsCase` holds of.

By such names the catalog answers with the rule that was recorded last under the same names in
whatever case; by any other name it answers with nothing, as what it keeps is in lower case and
the name is not.  The names in lower case all fold.
-/

namespace ColumnVeil

open Text (lowercase isUppercase isTitlecase)

/-! ## Names that fold -/

/-- A name has a capital letter, or else no letter that only lower case would change. -/
def FoldsCase (name : String) : Prop :=
  (∃ character ∈ name.toList, isUppercase character = true) ∨
    ∀ character ∈ name.toList, isTitlecase character = false

instance (name : String) : Decidable (FoldsCase name) :=
  inferInstanceAs (Decidable (_ ∨ _))

theorem foldCase_of_capital {name : String}
    (capital : ∃ character ∈ name.toList, isUppercase character = true) :
    foldCase name = lowercase name := by
  rw [foldCase, if_pos (List.any_eq_true.mpr capital)]

theorem foldCase_of_small {name : String}
    (small : ¬ ∃ character ∈ name.toList, isUppercase character = true) :
    foldCase name = name := by
  rw [foldCase, if_neg fun capital => small (List.any_eq_true.mp capital)]

theorem FoldsCase.foldCase_eq {name : String} (folds : FoldsCase name) :
    foldCase name = lowercase name := by
  by_cases capital : ∃ character ∈ name.toList, isUppercase character = true
  · exact foldCase_of_capital capital
  · rw [foldCase_of_small capital, eq_comm, Text.lowercase_eq_self_iff]
    intro character member
    apply Text.settled_of_unmarked
    · exact Bool.eq_false_iff.mpr fun upper => capital ⟨character, member, upper⟩
    · exact folds.resolve_left capital character member

/-- Only a name that folds is folded into a text in lower case. -/
theorem foldsCase_of_foldCase_eq {name text : String} (same : foldCase name = lowercase text) :
    FoldsCase name := by
  by_cases capital : ∃ character ∈ name.toList, isUppercase character = true
  · exact Or.inl capital
  · rw [foldCase_of_small capital] at same
    refine Or.inr fun character member => ?_
    rw [same, Text.toList_lowercase] at member
    rw [Bool.eq_false_iff]
    intro title
    exact Text.not_settled_of_titlecase title (Text.settled_of_mem_lowerFrom member)

theorem foldCase_eq_lowercase_iff {name : String} :
    foldCase name = lowercase name ↔ FoldsCase name :=
  ⟨foldsCase_of_foldCase_eq, FoldsCase.foldCase_eq⟩

theorem foldsCase_lowercase (name : String) : FoldsCase (lowercase name) := by
  refine Or.inr fun character member => ?_
  rw [Text.toList_lowercase] at member
  rw [Bool.eq_false_iff]
  intro title
  exact Text.not_settled_of_titlecase title (Text.settled_of_mem_lowerFrom member)

namespace Catalog

/-! ## What is recorded -/

/-- The names under which a column is kept. -/
def keptName (entry : String × ColumnRule) : Sql.ColumnRef :=
  ⟨lowercase entry.1, lowercase entry.2.column⟩

/-- The catalog of some columns with their tables, recorded one after the other. -/
def ofEntries (entries : List (String × ColumnRule)) (joinKeySize : Nat) : Catalog :=
  entries.foldl (fun catalog entry => catalog.insert entry.1 entry.2) { joinKeySize }

/-- The rule recorded last under the names of a table and a column, in whatever case. -/
def lastNamed (entries : List (String × ColumnRule)) (table column : String) :
    Option ColumnRule :=
  (entries.filter fun entry =>
    lowercase entry.1 = lowercase table ∧
      lowercase entry.2.column = lowercase column).getLast?.map Prod.snd

theorem ofEntries_append (entries : List (String × ColumnRule)) (entry : String × ColumnRule)
    (joinKeySize : Nat) :
    ofEntries (entries ++ [entry]) joinKeySize =
      (ofEntries entries joinKeySize).insert entry.1 entry.2 := by
  simp only [ofEntries, List.foldl_append, List.foldl_cons, List.foldl_nil]

theorem lookup_filter_ne {rules : List (Sql.ColumnRef × ColumnRule)} {key other : Sql.ColumnRef}
    (apart : key ≠ other) :
    (rules.filter fun entry => entry.1 != other).lookup key = rules.lookup key := by
  induction rules with
  | nil => rfl
  | cons entry rest inductionHypothesis =>
      obtain ⟨name, rule⟩ := entry
      by_cases same : name = other
      · subst same
        rw [List.filter_cons_of_neg (by simp), inductionHypothesis, List.lookup_cons,
          beq_false_of_ne apart]
      · rw [List.filter_cons_of_pos (by simp [same]), List.lookup_cons, List.lookup_cons,
          inductionHypothesis]

/-- A recorded rule stands in place of one recorded before, and leaves the others. -/
theorem lookup_insert (catalog : Catalog) (entry : String × ColumnRule) (key : Sql.ColumnRef) :
    (catalog.insert entry.1 entry.2).rules.lookup key =
      if keptName entry = key then some entry.2 else catalog.rules.lookup key := by
  show List.lookup key ((keptName entry, entry.2) ::
    catalog.rules.filter fun kept => kept.1 != keptName entry) = _
  rw [List.lookup_cons]
  split
  · rename_i same
    rw [if_pos (eq_of_beq same).symm]
  · rename_i apart
    have apart := ne_of_beq_false apart
    rw [if_neg apart.symm, lookup_filter_ne apart]

theorem lookup_ofEntries (entries : List (String × ColumnRule)) (joinKeySize : Nat)
    (key : Sql.ColumnRef) :
    (ofEntries entries joinKeySize).rules.lookup key =
      (entries.filter fun entry => keptName entry = key).getLast?.map Prod.snd := by
  induction entries using List.reverseRecOn with
  | nil => rfl
  | append_singleton entries entry inductionHypothesis =>
      rw [ofEntries_append, lookup_insert, inductionHypothesis, List.filter_append]
      by_cases same : keptName entry = key
      · rw [if_pos same, List.filter_cons_of_pos (by simpa using same), List.filter_nil,
          List.getLast?_concat]
        rfl
      · rw [if_neg same, List.filter_cons_of_neg (by simpa using same), List.filter_nil,
          List.append_nil]

theorem lookup_lowercase (entries : List (String × ColumnRule)) (joinKeySize : Nat)
    (table column : String) :
    (ofEntries entries joinKeySize).rules.lookup ⟨lowercase table, lowercase column⟩ =
      lastNamed entries table column := by
  rw [lookup_ofEntries, lastNamed]
  simp only [keptName, Sql.ColumnRef.mk.injEq]

/-- The catalog keeps one rule under a name. -/
theorem lookup_of_mem {entries : List (String × ColumnRule)} {joinKeySize : Nat}
    {kept : Sql.ColumnRef × ColumnRule} (member : kept ∈ (ofEntries entries joinKeySize).rules) :
    (ofEntries entries joinKeySize).rules.lookup kept.1 = some kept.2 := by
  induction entries using List.reverseRecOn with
  | nil => cases member
  | append_singleton entries entry inductionHypothesis =>
      rw [ofEntries_append] at member ⊢
      rw [lookup_insert]
      rcases List.mem_cons.mp member with rfl | earlier
      · exact if_pos rfl
      · obtain ⟨listed, apart⟩ := List.mem_filter.mp earlier
        rw [if_neg (ne_of_beq_false (Bool.not_eq_true' _ ▸ apart)).symm]
        exact inductionHypothesis listed

/-- What the catalog keeps has been recorded, and it keeps it under a name in lower case. -/
theorem exists_entry_of_lookup {entries : List (String × ColumnRule)} {joinKeySize : Nat}
    {key : Sql.ColumnRef} {rule : ColumnRule}
    (found : (ofEntries entries joinKeySize).rules.lookup key = some rule) :
    ∃ entry ∈ entries, keptName entry = key ∧ entry.2 = rule := by
  rw [lookup_ofEntries] at found
  obtain ⟨entry, last, same⟩ := Option.map_eq_some_iff.mp found
  obtain ⟨listed, named⟩ := List.mem_filter.mp (List.mem_of_getLast? last)
  exact ⟨entry, listed, of_decide_eq_true named, same⟩

@[simp]
theorem joinKeySize_ofEntries (entries : List (String × ColumnRule)) (joinKeySize : Nat) :
    (ofEntries entries joinKeySize).joinKeySize = joinKeySize := by
  induction entries using List.reverseRecOn with
  | nil => rfl
  | append_singleton entries entry inductionHypothesis =>
      rw [ofEntries_append]
      exact inductionHypothesis

/-! ## What is found -/

theorem rule?_ofEntries (entries : List (String × ColumnRule)) (joinKeySize : Nat)
    (table column : String) :
    (ofEntries entries joinKeySize).rule? table column =
      if FoldsCase table ∧ FoldsCase column then lastNamed entries table column else none := by
  rw [rule?]
  split
  · rename_i folds
    rw [folds.1.foldCase_eq, folds.2.foldCase_eq, lookup_lowercase]
  · rename_i unfolded
    rw [Option.eq_none_iff_forall_ne_some]
    intro rule found
    obtain ⟨entry, -, named, -⟩ := exists_entry_of_lookup found
    have tableName : lowercase entry.1 = foldCase table := congrArg Sql.ColumnRef.table named
    have columnName : lowercase entry.2.column = foldCase column :=
      congrArg Sql.ColumnRef.column named
    exact unfolded ⟨foldsCase_of_foldCase_eq tableName.symm,
      foldsCase_of_foldCase_eq columnName.symm⟩

theorem isProtected_ofEntries (entries : List (String × ColumnRule)) (joinKeySize : Nat)
    (table : String) :
    (ofEntries entries joinKeySize).isProtected table = true ↔
      FoldsCase table ∧ ∃ column rule,
        lastNamed entries table column = some rule ∧ rule.isProtected = true := by
  rw [isProtected, List.any_eq_true]
  constructor
  · rintro ⟨⟨key, rule⟩, member, holds⟩
    obtain ⟨same, guarded⟩ := Bool.and_eq_true_iff.mp holds
    have found := lookup_of_mem member
    obtain ⟨entry, -, named, -⟩ := exists_entry_of_lookup found
    have tableName : lowercase entry.1 = foldCase table :=
      (congrArg Sql.ColumnRef.table named).trans (eq_of_beq same)
    have folds := foldsCase_of_foldCase_eq tableName.symm
    refine ⟨folds, entry.2.column, rule, ?_, guarded⟩
    rw [← lookup_lowercase entries joinKeySize, ← folds.foldCase_eq, ← tableName]
    show List.lookup (keptName entry) _ = _
    rw [named]
    exact found
  · rintro ⟨folds, column, rule, found, guarded⟩
    rw [← lookup_lowercase entries joinKeySize, ← folds.foldCase_eq] at found
    obtain ⟨before, after, split, -⟩ := List.lookup_eq_some_iff.mp found
    refine ⟨(_, rule), split ▸ List.mem_append_right before (List.mem_cons_self ..), ?_⟩
    rw [Bool.and_eq_true_iff]
    exact ⟨beq_self_eq_true _, guarded⟩

/-- By names that fold, the catalog finds what was recorded last under the same names in whatever
case, and knows whether that is protected.  These are the names whose folding is lower case, and
every name in lower case is one of them. -/
theorem folded_names_find_the_last_rule (entries : List (String × ColumnRule)) (joinKeySize : Nat)
    (table column name : String) :
    (ofEntries entries joinKeySize).rule? table column =
        (if FoldsCase table ∧ FoldsCase column then lastNamed entries table column else none) ∧
      ((ofEntries entries joinKeySize).isProtected table = true ↔
        FoldsCase table ∧ ∃ column rule,
          lastNamed entries table column = some rule ∧ rule.isProtected = true) ∧
      (foldCase name = lowercase name ↔ FoldsCase name) ∧
      FoldsCase (lowercase name) :=
  ⟨rule?_ofEntries entries joinKeySize table column, isProtected_ofEntries entries joinKeySize table,
    foldCase_eq_lowercase_iff, foldsCase_lowercase name⟩

/-- A table named by a title-case digraph: its joined column is not found under the very name it
was recorded by, though the lower case of both is one, and the table counts as unprotected. -/
theorem digraph_is_not_found :
    let rule := (ColumnRule.plain "c" DataType.text).joined
    let catalog := ofEntries [("\u01C5", rule)] 8
    lastNamed [("\u01C5", rule)] "\u01C5" "c" = some rule ∧ rule.isProtected = true ∧
      catalog.rule? "\u01C5" "c" = none ∧ catalog.isProtected "\u01C5" = false ∧
      catalog.rule? "\u01C4" "c" = some rule ∧
      foldCase "\u01C5" ≠ lowercase "\u01C5" := by
  decide +kernel

end Catalog
end ColumnVeil
