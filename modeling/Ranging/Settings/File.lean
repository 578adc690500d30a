import Ranging.Settings.Document

-- Settings from a file. A path is followed name by name through a tree of folders.
namespace Ranging

inductive FileTree
  | file (content : ByteArray)
  | folder (entries : List (String × FileTree))

inductive ReadError
  | notFound
  | notAFolder
  | isAFolder
  | notText
deriving DecidableEq, Repr

def ReadError.message : ReadError → String
  | .notFound => "No such file or directory (os error 2)"
  | .notAFolder => "Not a directory (os error 20)"
  | .isAFolder => "Is a directory (os error 21)"
  | .notText => "stream did not contain valid UTF-8"

namespace FileTree

def child? (name : String) : List (String × FileTree) → Option FileTree
  | [] => none
  | (n, tree) :: rest => if n = name then some tree else child? name rest

def at? (root : FileTree) : List String → Option FileTree
  | [] => some root
  | name :: rest =>
      match root with
      | .folder entries => (child? name entries).bind fun tree => tree.at? rest
      | .file _ => none

-- One step from the place `here`, which is kept back to front. The parent of the root is the root;
-- an empty name, as two slashes or a last one leave it, stays where it is.
def step (root : FileTree) (here : List String) (name : String) : Except ReadError (List String) :=
  match root.at? here.reverse with
  | none => .error .notFound
  | some (.file _) => .error .notAFolder
  | some (.folder entries) =>
      if name = "" || name = "." then .ok here
      else if name = ".." then .ok here.tail
      else match child? name entries with
        | none => .error .notFound
        | some _ => .ok (name :: here)

def locate (root : FileTree) (working : List String) (path : String) : Except ReadError FileTree :=
  if path = "" then .error .notFound
  else do
    let names := path.toList.splitOn '/' |>.map String.ofList
    let start := if path.toList.head? = some '/' then [] else working.reverse
    let there ← names.foldlM (step root) start
    match root.at? there.reverse with
    | none => .error .notFound
    | some tree => .ok tree

def readText (root : FileTree) (working : List String) (path : String) : Except ReadError String := do
  match ← root.locate working path with
  | .folder _ => .error .isAFolder
  | .file content =>
      match String.fromUTF8? content with
      | none => .error .notText
      | some text => .ok text

end FileTree

def Settings.load (root : FileTree) (working : List String) (path : String) : Except SettingsError Settings :=
  match root.readText working path with
  | .error reason => .error (.unreadable path reason.message)
  | .ok text => Settings.parse text

end Ranging
