import Ranging.Toml.Value

-- A whole text: lines, gathered under their headers, grown into one table.
namespace Ranging.Toml

inductive Line
  | pair (path : List String) (value : Node)
  | table (path : List String)
  | element (path : List String)

def readHeader (cs : List Char) : Option (Line × List Char) :=
  match cs with
  | '[' :: '[' :: rest =>
      match readPath rest with
      | some (path, ']' :: ']' :: rest) => some (.element path, rest)
      | _ => none
  | '[' :: rest =>
      match readPath rest with
      | some (path, ']' :: rest) => some (.table path, rest)
      | _ => none
  | _ => none

def readLine (cs : List Char) : Option (Line × List Char) :=
  match cs with
  | '[' :: _ => readHeader cs
  | _ => (readPair readValue cs).map fun r => (.pair r.1.1 r.1.2, r.2)

-- Every line takes a character at least, so the length of the text is fuel enough.
def readLines : Nat → List Char → Option (List Line)
  | 0, _ => none
  | fuel + 1, cs =>
      match skipBlanks cs with
      | [] => some []
      | cs =>
          match lineEnd? cs with
          | some rest => readLines fuel rest
          | none =>
              match readLine cs with
              | none => none
              | some (line, rest) =>
                  match lineEnd? rest with
                  | none => none
                  | some rest => (readLines fuel rest).map fun lines => line :: lines

structure Section where
  isElement : Bool
  path : List String
  body : List (List String × Node)

def sections : List Line → List (List String × Node) × List Section
  | [] => ([], [])
  | .pair path value :: rest => ((path, value) :: (sections rest).1, (sections rest).2)
  | .table path :: rest => ([], ⟨false, path, (sections rest).1⟩ :: (sections rest).2)
  | .element path :: rest => ([], ⟨true, path, (sections rest).1⟩ :: (sections rest).2)

namespace Section

-- A table is written out once, though headers below it may have implied it before. An element
-- goes behind those that its array already has.
def node (s : Section) (old : Option Node) : Option Node :=
  match s.isElement, old with
  | false, none => (fill s.body []).map (.table .header)
  | false, some (.table .implied entries) => (fill s.body entries).map (.table .header)
  | true, none => (fill s.body []).map fun entries => .tables [entries]
  | true, some (.tables items) => (fill s.body []).map fun entries => .tables (items ++ [entries])
  | _, _ => none

end Section

def grow (lines : List Line) : Option Entries :=
  let parts := sections lines
  (fill parts.1 []).bind fun root => parts.2.foldlM (fun entries s => alter s.path s.node entries) root

def skipMark : List Char → List Char
  | '\ufeff' :: rest => rest
  | cs => cs

def parse? (text : List Char) : Option Entries :=
  let cs := skipMark text
  (readLines (cs.length + 1) cs).bind grow

end Ranging.Toml
