/-
  Switchyard.Toml.Tree
  ────────────────────
  The tables of a document while it is being read.  Each table knows how it
  came to be, because that decides who may add to it:

      header    by a header of its own, or the document: no second header
      onTheWay  on the way to another table's header: a header may still come
      dotted    by a key with dots: only such keys may add to it
-/
import Switchyard.Toml.Value

namespace Switchyard.Toml

/-- How a table came to be. -/
inductive Origin where
  | header
  | onTheWay
  | dotted
  deriving DecidableEq, Repr, Inhabited

inductive Node where
  | value (v : Value)
  | table (origin : Origin) (entries : List (String × Node))
  /-- An array of tables that headers add to, with its last table. -/
  | tables (earlier : List Node) (last : Node)
  deriving Inhabited

namespace Node

/-- A document without entries. -/
def root : Node := .table .header []

/-- Entries with a node for a key, in the place of the one that is there. -/
def putEntry (key : String) (node : Node) : List (String × Node) → List (String × Node)
  | [] => [(key, node)]
  | (k, n) :: entries => if k = key then (key, node) :: entries else (k, n) :: putEntry key node entries

/-- Changes the table that a path leads to.  Tables that are missing on the
way are made; an array of tables leads on through its last one.  A path of
dotted keys does not lead through tables with headers. -/
def alter (dotted : Bool) (change : Node → Option Node) : List String → Node → Option Node
  | [], node => change node
  | key :: path, .table origin entries => do
      let child ← match entries.lookup key with
        | none => alter dotted change path (.table (if dotted then .dotted else .onTheWay) [])
        | some (.table o es) =>
            if dotted ∧ o = .header then none else alter dotted change path (.table o es)
        | some (.tables earlier last) => (alter dotted change path last).map (.tables earlier)
        | some (.value _) => none
      return .table origin (putEntry key child entries)
  | _ :: _, _ => none

/-- Adds an entry to a table.  Behind a path of dotted keys only tables that
come from such keys take it. -/
def addEntry (behindPath : Bool) (key : String) (v : Value) : Node → Option Node
  | .table origin entries =>
      if decide (origin = .dotted) ≠ behindPath ∨ (entries.lookup key).isSome then none
      else some (.table origin (entries ++ [(key, .value v)]))
  | _ => none

/-- Sets a dotted key in the table that `here` leads to. -/
def set (here path : List String) (key : String) (v : Value) : Node → Option Node :=
  alter false (alter true (addEntry (!path.isEmpty) key v) path) here

/-- Begins the table of a header in the table before the header's last key. -/
def openTable (key : String) : Node → Option Node
  | .table origin entries =>
      match entries.lookup key with
      | none => some (.table origin (entries ++ [(key, .table .header [])]))
      | some (.table .onTheWay es) => some (.table origin (putEntry key (.table .header es) entries))
      | some _ => none
  | _ => none

/-- Begins the next table of an array of tables. -/
def openArrayTable (key : String) : Node → Option Node
  | .table origin entries =>
      match entries.lookup key with
      | none => some (.table origin (entries ++ [(key, .tables [] (.table .header []))]))
      | some (.tables earlier last) =>
          let next := .tables (earlier ++ [last]) (.table .header [])
          some (.table origin (putEntry key next entries))
      | some _ => none
  | _ => none

mutual

/-- What a node stands for once the document is complete. -/
def toValue : Node → Value
  | .value v => v
  | .table _ entries => .table (entryValues entries)
  | .tables earlier last => .array (nodeValues earlier ++ [last.toValue])

def entryValues : List (String × Node) → List (String × Value)
  | [] => []
  | (key, node) :: entries => (key, node.toValue) :: entryValues entries

def nodeValues : List Node → List Value
  | [] => []
  | node :: nodes => node.toValue :: nodeValues nodes

end

end Node

end Switchyard.Toml
