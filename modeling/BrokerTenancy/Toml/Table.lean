import BrokerTenancy.Toml.Basic

/-!
Tables under construction. A table may be declared once by a header of its own; a longer header or
a key with points brings the tables on its way into being, and how a table came to be decides what
may still be added to it.
-/

namespace BrokerTenancy.Toml

/-- How a table came to be: by its own header, by a header below it, or by a key with points. -/
inductive Origin where
  | declared
  | implied
  | dotted
  deriving DecidableEq, Repr

/-- What a key stands for while the document is read. A series is an array whose tables are
declared by headers; the last of them comes first. -/
inductive Node where
  | value (value : Toml)
  | table (origin : Origin) (fields : List (String × Node))
  | series (tables : List (List (String × Node)))

abbrev Fields := List (String × Node)

namespace Fields

/-- Sets a key to a node, in its place if it has one. -/
def put (key : String) (node : Node) : Fields → Fields
  | [] => [(key, node)]
  | (present, other) :: rest =>
      if present = key then (key, node) :: rest else (present, other) :: put key node rest

/-- Changes the table at the end of a path. Tables missing on the way are made with the origin
`made`. A series is entered at its last table, and a key with points must not enter a table that a
header declared. -/
def within (made : Origin) (change : Origin → Fields → Option Fields) :
    List String → Origin → Fields → Option Fields
  | [], origin, fields => change origin fields
  | key :: path, _, fields =>
      match List.lookup key fields with
      | none => do
          let inner ← within made change path made []
          some (put key (.table made inner) fields)
      | some (.table origin inner) =>
          if made = .dotted ∧ origin = .declared then none
          else do
            let inner ← within made change path origin inner
            some (put key (.table origin inner) fields)
      | some (.series (last :: earlier)) => do
          let last ← within made change path .declared last
          some (put key (.series (last :: earlier)) fields)
      | some _ => none

/-- Defines a key by its parts. The points of a key lead to a table made by such keys, and to no
other. -/
def define (parts : List String) (value : Toml) (fields : Fields) : Option Fields := do
  let key ← parts.getLast?
  let path := parts.dropLast
  within .dotted (fun origin fields =>
    if (origin == .dotted) == path.isEmpty || (List.lookup key fields).isSome then none
    else some (fields.concat (key, .value value))) path .declared fields

/-- Declares a table by its header. Of the tables that are there, only one implied by longer
headers may be declared. -/
def declare (parts : List String) (fields : Fields) : Option Fields := do
  let key ← parts.getLast?
  within .implied (fun _ fields =>
    match List.lookup key fields with
    | none => some (put key (.table .declared []) fields)
    | some (.table .implied inner) => some (put key (.table .declared inner) fields)
    | some _ => none) parts.dropLast .declared fields

/-- Adds a table to a series by its header. -/
def extend (parts : List String) (fields : Fields) : Option Fields := do
  let key ← parts.getLast?
  within .implied (fun _ fields =>
    match List.lookup key fields with
    | none => some (put key (.series [[]]) fields)
    | some (.series tables) => some (put key (.series ([] :: tables)) fields)
    | some _ => none) parts.dropLast .declared fields

end Fields

mutual

/-- The value that a finished node stands for. -/
def Node.finished : Node → Toml
  | .value value => value
  | .table _ fields => .table (finishedFields fields)
  | .series tables => .array (finishedTables tables).reverse

def finishedFields : List (String × Node) → List (String × Toml)
  | [] => []
  | (key, node) :: rest => (key, node.finished) :: finishedFields rest

def finishedTables : List (List (String × Node)) → List Toml
  | [] => []
  | fields :: rest => .table (finishedFields fields) :: finishedTables rest

end

end BrokerTenancy.Toml
