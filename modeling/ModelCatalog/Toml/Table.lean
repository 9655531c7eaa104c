import ModelCatalog.Toml.Text

/-!
Tables of TOML while they are being written down. Nothing may be defined twice: a table remembers
how it came about, because a header may still define a table that other headers have passed through,
and a dotted key may still extend what dotted keys have made.
-/

namespace ModelCatalog.Toml

inductive Origin where
  /-- Headers of inner tables have passed through it. -/
  | implied
  /-- Dotted keys have made it. -/
  | dotted
  /-- It has a header of its own, or braces, or is the whole document. -/
  | declared
  deriving DecidableEq, Repr

inductive Node where
  | value (value : Json)
  | table (origin : Origin) (members : List (String × Node))
  /-- The tables of one repeated header, the latest first. -/
  | tables (rows : List (List (String × Node)))
  deriving Repr

structure Table where
  origin : Origin := .declared
  members : List (String × Node) := []
  deriving Repr

namespace Table

def put (table : Table) (name : String) (node : Node) : Table :=
  if table.members.any fun member => member.1 == name then
    { table with members := table.members.map fun member =>
        if member.1 = name then (name, node) else member }
  else { table with members := table.members ++ [(name, node)] }

/-- Changes the table at the end of a path of names. Where a name is new, so is its table; a
repeated header means the latest of its tables. A dotted key cannot enter a declared table. -/
def change? (dotted : Bool) (change : Table → Option Table) : List String → Table → Option Table
  | [], table => change table
  | name :: path, table =>
    match table.members.lookup name with
    | none => do
      let inner ← change? dotted change path ⟨if dotted then .dotted else .implied, []⟩
      return table.put name (.table inner.origin inner.members)
    | some (.table origin members) =>
      if dotted && origin == .declared then none
      else do
        let inner ← change? dotted change path ⟨origin, members⟩
        return table.put name (.table inner.origin inner.members)
    | some (.tables (latest :: earlier)) => do
      let inner ← change? dotted change path ⟨.declared, latest⟩
      return table.put name (.tables (inner.members :: earlier))
    | some (.tables []) => none
    | some (.value _) => none

/-- Defines the value of a name in the table that its key leads to. Only a dotted key may do so in a
table that dotted keys have made. -/
def defineIn? (key : Key) (value : Json) (inner : Table) : Option Table :=
  if (inner.origin == .dotted) == key.path.isEmpty then none
  else if (inner.members.lookup key.name).isSome then none
  else some (inner.put key.name (.value value))

def define? (key : Key) (value : Json) (table : Table) : Option Table :=
  change? true (defineIn? key value) key.path table

def declareIn? (name : String) (outer : Table) : Option Table :=
  match outer.members.lookup name with
  | none => some (outer.put name (.table .declared []))
  | some (.table .implied members) => some (outer.put name (.table .declared members))
  | some _ => none

def declare? (key : Key) (table : Table) : Option Table :=
  change? false (declareIn? key.name) key.path table

def repeatIn? (name : String) (outer : Table) : Option Table :=
  match outer.members.lookup name with
  | none => some (outer.put name (.tables [[]]))
  | some (.tables rows) => some (outer.put name (.tables ([] :: rows)))
  | some _ => none

def repeat? (key : Key) (table : Table) : Option Table :=
  change? false (repeatIn? key.name) key.path table

end Table

mutual

def Node.toJson : Node → Json
  | .value value => value
  | .table _ members => .object (membersJson members)
  | .tables rows => .list (rowsJson rows).reverse

def membersJson : List (String × Node) → List (String × Json)
  | [] => []
  | (name, node) :: rest => (name, node.toJson) :: membersJson rest

def rowsJson : List (List (String × Node)) → List Json
  | [] => []
  | members :: rest => .object (membersJson members) :: rowsJson rest

end

def Table.values (table : Table) : List (String × Json) := membersJson table.members

end ModelCatalog.Toml
