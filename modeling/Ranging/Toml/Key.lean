import Ranging.Toml.Quotation

-- Keys, bare or quoted, and the dotted paths made of them.
namespace Ranging.Toml

def isBare (c : Char) : Bool :=
  let n := c.toNat
  (65 ≤ n && n ≤ 90) || (97 ≤ n && n ≤ 122) || (48 ≤ n && n ≤ 57) || c = '_' || c = '-'

def readBare (cs : List Char) : Option (String × List Char) :=
  match cs.takeWhile isBare with
  | [] => none
  | name => some (String.ofList name, cs.dropWhile isBare)

def readKey (cs : List Char) : Option (String × List Char) :=
  match cs with
  | '"' :: _ => readQuotedKey cs
  | '\x27' :: _ => readQuotedKey cs
  | _ => readBare cs

-- At most so many keys make a path, and arrays and inline tables nest no deeper.
def nestingLimit : Nat := 79

def readPathOf : Nat → Reader (List String)
  | 0, _ => none
  | more + 1, cs =>
      match readKey (skipBlanks cs) with
      | none => none
      | some (key, rest) =>
          match skipBlanks rest with
          | '.' :: rest => (readPathOf more rest).map fun r => (key :: r.1, r.2)
          | rest => some ([key], rest)

def readPath : Reader (List String) := readPathOf nestingLimit

end Ranging.Toml
