import Ranging.Toml.Key
import Ranging.Toml.Moment
import Ranging.Toml.Node

-- What may stand behind an equals sign.
namespace Ranging.Toml

def readNumeral (cs : List Char) : Option (Node × List Char) :=
  match readMoment cs with
  | some rest => some (.moment, rest)
  | none =>
      match (readFloat cs).or (readSpecial cs) with
      | some rest => some (.real, rest)
      | none => (readInteger cs).map fun r => (.integer r.1, r.2)

def readScalar (cs : List Char) : Option (Node × List Char) :=
  match cs with
  | '"' :: _ => (readString cs).map fun r => (.text r.1, r.2)
  | '\x27' :: _ => (readString cs).map fun r => (.text r.1, r.2)
  | 't' :: 'r' :: 'u' :: 'e' :: rest => some (.flag true, rest)
  | 'f' :: 'a' :: 'l' :: 's' :: 'e' :: rest => some (.flag false, rest)
  | cs => readNumeral cs

-- The items behind an opening bracket or a comma. A comma may stand behind the last item.
def readItems (item : Reader Node) : Nat → Reader (List Node)
  | 0, _ => none
  | fuel + 1, cs =>
      match skipTrivia cs with
      | ']' :: rest => some ([], rest)
      | cs =>
          match item cs with
          | none => none
          | some (value, rest) =>
              match skipTrivia rest with
              | ',' :: rest => (readItems item fuel rest).map fun r => (value :: r.1, r.2)
              | ']' :: rest => some ([value], rest)
              | _ => none

def readPair (item : Reader Node) (cs : List Char) : Option ((List String × Node) × List Char) :=
  match readPath cs with
  | some (path, '=' :: rest) => (item (skipBlanks rest)).map fun r => ((path, r.1), r.2)
  | _ => none

-- The pairs behind an opening brace or a comma, all on one line. No comma stands behind the last.
def readPairs (item : Reader Node) : Nat → Reader (List (List String × Node))
  | 0, _ => none
  | fuel + 1, cs =>
      match readPair item cs with
      | none => none
      | some (pair, rest) =>
          match skipBlanks rest with
          | ',' :: rest => (readPairs item fuel rest).map fun r => (pair :: r.1, r.2)
          | '\x7d' :: rest => some ([pair], rest)
          | _ => none

def readInline (item : Reader Node) (cs : List Char) : Option (Node × List Char) :=
  match skipBlanks cs with
  | '\x7d' :: rest => some (.inlined [], rest)
  | cs =>
      match readPairs item cs.length cs with
      | none => none
      | some (pairs, rest) => (fill pairs []).map fun entries => (.inlined entries, rest)

def readValueWithin : Nat → Reader Node
  | 0, cs => readScalar cs
  | depth + 1, cs =>
      match cs with
      | '[' :: rest => (readItems (readValueWithin depth) rest.length rest).map fun r => (.array r.1, r.2)
      | '\x7b' :: rest => readInline (readValueWithin depth) rest
      | cs => readScalar cs

def readValue : Reader Node := readValueWithin nestingLimit

end Ranging.Toml
