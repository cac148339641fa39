import ColumnVeil.Settings.Document

/-!
# Tables of a TOML document

A TOML document builds up a tree of tables, by headers and by dotted keys.  No table may be
declared twice, and none may be extended in another way than it was made.
-/

namespace ColumnVeil.TomlText

/-- How a table came to be. -/
inductive Origin
  /-- It lies on the path of a header. -/
  | implied
  /-- It has a header of its own, or is the whole document. -/
  | declared
  /-- It lies on the path of a dotted key. -/
  | dotted
deriving DecidableEq, Repr

/-- What a key stands for. -/
inductive Node
  | leaf (value : Document)
  | table (origin : Origin) (entries : List (String × Node))
  /-- An array of tables; only the last of them can still be extended. -/
  | tables (earlier : List (List (String × Node))) (last : List (String × Node))
deriving Repr, Inhabited

/-- The entries of a table. -/
abbrev Entries := List (String × Node)

/-- A table with its origin. -/
abbrev Table := Origin × Entries

mutual

/-- The document of a node. -/
def Node.toDocument : Node → Document
  | .leaf value => value
  | .table _ entries => .record (entriesToDocuments entries)
  | .tables earlier last => .list (tablesToDocuments earlier ++ [.record (entriesToDocuments last)])

/-- The documents of the entries of a table. -/
def entriesToDocuments : List (String × Node) → List (String × Document)
  | [] => []
  | (key, node) :: rest => (key, node.toDocument) :: entriesToDocuments rest

/-- The documents of some tables. -/
def tablesToDocuments : List (List (String × Node)) → List Document
  | [] => []
  | entries :: rest => .record (entriesToDocuments entries) :: tablesToDocuments rest

end

namespace Table

/-- The entries with a key standing for a node. -/
def put (entries : Entries) (key : String) (node : Node) : Entries :=
  entries.filter (fun entry => entry.1 != key) ++ [(key, node)]

/-- Change the table that lies at a path below a table, and make the tables that are missing
on the way; `dotted` tells the path of a dotted key from that of a header. -/
def changeAt (dotted : Bool) (change : Table → Option Table) : (path : List String) → Table → Option Table
  | [], table => change table
  | key :: path, (origin, entries) =>
    match entries.lookup key with
    | none => do
      let (below, others) ← changeAt dotted change path (if dotted then .dotted else .implied, [])
      return (origin, put entries key (.table below others))
    | some (.leaf _) => none
    | some (.tables earlier last) => do
      let (_, last) ← changeAt dotted change path (.declared, last)
      return (origin, put entries key (.tables earlier last))
    | some (.table below others) =>
      if dotted && below == .declared then none
      else do
        let (below, others) ← changeAt dotted change path (below, others)
        return (origin, put entries key (.table below others))

/-- Give a key a value in a table, under a dotted key if there is a path. -/
def assign (path : List String) (key : String) (value : Document) : Table → Option Table :=
  changeAt true (fun (origin, entries) =>
    if (origin == .dotted) == path.isEmpty || (entries.lookup key).isSome then none
    else some (origin, put entries key (.leaf value))) path

/-- Declare a table by its header. -/
def declare (path : List String) (key : String) : Table → Option Table :=
  changeAt false (fun (origin, entries) =>
    match entries.lookup key with
    | none => some (origin, put entries key (.table .declared []))
    | some (.table .implied others) => some (origin, put entries key (.table .declared others))
    | some _ => none) path

/-- Begin one more table of an array of tables. -/
def declareNext (path : List String) (key : String) : Table → Option Table :=
  changeAt false (fun (origin, entries) =>
    match entries.lookup key with
    | none => some (origin, put entries key (.tables [] []))
    | some (.tables earlier last) =>
      some (origin, put entries key (.tables (earlier ++ [last]) []))
    | some _ => none) path

end Table

end ColumnVeil.TomlText
