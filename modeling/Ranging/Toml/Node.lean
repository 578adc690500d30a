-- The tree that a document stands for. A table remembers how it came about, because that
-- decides whether a later line may still add to it.
namespace Ranging.Toml

inductive Origin
  | header     -- written out under its own header
  | dotted     -- called into being by a dotted key
  | implied    -- called into being as the parent of a header
deriving DecidableEq, Repr

inductive Node
  | integer (value : Int)
  | text (value : String)
  | flag (value : Bool)
  | real
  | moment
  | array (items : List Node)
  | inlined (entries : List (String × Node))
  | table (origin : Origin) (entries : List (String × Node))
  | tables (items : List (List (String × Node)))

abbrev Entries := List (String × Node)

def find? (key : String) : Entries → Option Node
  | [] => none
  | (k, node) :: rest => if k = key then some node else find? key rest

def replace (key : String) (node : Node) : Entries → Entries
  | [] => [(key, node)]
  | (k, old) :: rest => if k = key then (key, node) :: rest else (k, old) :: replace key node rest

def changeLast (change : Entries → Option Entries) : List Entries → Option (List Entries)
  | [] => none
  | [last] => (change last).map fun changed => [changed]
  | first :: rest => (changeLast change rest).map fun changed => first :: changed

-- A key and its value below a dotted path. No key is given twice; a table that has a header of
-- its own, or stands in an array, gets no key through a path; only one called into being by a
-- dotted key takes the last step.
def insert : List String → Node → Entries → Option Entries
  | [], _, _ => none
  | [key], value, entries => if (find? key entries).isSome then none else some (entries ++ [(key, value)])
  | key :: next :: path, value, entries =>
      match find? key entries with
      | none => (insert (next :: path) value []).map fun sub => entries ++ [(key, .table .dotted sub)]
      | some (.table origin sub) =>
          if origin = .header || (origin = .implied && path.isEmpty) then none
          else (insert (next :: path) value sub).map fun sub => replace key (.table origin sub) entries
      | some (.tables items) =>
          if path.isEmpty then none
          else (changeLast (insert (next :: path) value) items).map fun items => replace key (.tables items) entries
      | some _ => none

-- Changes what stands at the end of a header's path; tables missing on the way are implied, and
-- an array of tables is entered at its last one.
def alter : List String → (Option Node → Option Node) → Entries → Option Entries
  | [], _, _ => none
  | [key], change, entries => (change (find? key entries)).map fun node => replace key node entries
  | key :: next :: path, change, entries =>
      match find? key entries with
      | none => (alter (next :: path) change []).map fun sub => entries ++ [(key, .table .implied sub)]
      | some (.table origin sub) =>
          (alter (next :: path) change sub).map fun sub => replace key (.table origin sub) entries
      | some (.tables items) =>
          (changeLast (alter (next :: path) change) items).map fun items => replace key (.tables items) entries
      | some _ => none

def fill (lines : List (List String × Node)) (entries : Entries) : Option Entries :=
  lines.foldlM (fun entries line => insert line.1 line.2 entries) entries

end Ranging.Toml
