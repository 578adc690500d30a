import Ranging.Toml.Number

-- Dates and times of day. Nothing asks for their value, so only their form is read.
namespace Ranging.Toml

def isLeap (year : Nat) : Bool := (year % 4 = 0 && year % 100 ≠ 0) || year % 400 = 0

def daysIn (year month : Nat) : Nat :=
  if month = 2 then (if isLeap year then 29 else 28)
  else if month = 4 || month = 6 || month = 9 || month = 11 then 30 else 31

def readTwo : Reader Nat
  | a :: b :: rest => if isDigit a && isDigit b then some (valueOf 10 [a, b], rest) else none
  | _ => none

def readTwoIn (low high : Nat) (cs : List Char) : Option (Nat × List Char) :=
  (readTwo cs).filter fun r => low ≤ r.1 && r.1 ≤ high

def skip (c : Char) : List Char → Option (List Char)
  | d :: rest => if d = c then some rest else none
  | [] => none

def readDate (cs : List Char) : Option (List Char) := do
  let (century, cs) ← readTwo cs
  let (year, cs) ← readTwo cs
  let cs ← skip '-' cs
  let (month, cs) ← readTwoIn 1 12 cs
  let cs ← skip '-' cs
  let (_, cs) ← readTwoIn 1 (daysIn (100 * century + year) month) cs
  return cs

def skipFraction : List Char → List Char
  | '.' :: c :: rest => if isDigit c then rest.dropWhile isDigit else '.' :: c :: rest
  | cs => cs

-- A minute may have a sixty-first second.
def readClock (cs : List Char) : Option (List Char) := do
  let (_, cs) ← readTwoIn 0 23 cs
  let cs ← skip ':' cs
  let (_, cs) ← readTwoIn 0 59 cs
  let cs ← skip ':' cs
  let (_, cs) ← readTwoIn 0 60 cs
  return skipFraction cs

def readOffset : List Char → Option (List Char)
  | 'Z' :: rest => some rest
  | 'z' :: rest => some rest
  | c :: rest =>
      if c = '+' || c = '-' then do
        let (_, cs) ← readTwoIn 0 23 rest
        let cs ← skip ':' cs
        let (_, cs) ← readTwoIn 0 59 cs
        return cs
      else none
  | [] => none

def isDelimiter (c : Char) : Bool := c = 'T' || c = 't' || c = ' '

-- A date stands alone when no time of day follows its delimiter.
def readMoment (cs : List Char) : Option (List Char) :=
  match readDate cs with
  | none => readClock cs
  | some [] => some []
  | some (c :: rest) =>
      match (if isDelimiter c then readClock rest else none) with
      | none => some (c :: rest)
      | some behind => some ((readOffset behind).getD behind)

end Ranging.Toml
