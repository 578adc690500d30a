import Ranging.Toml.Blank

-- Integers and floats. Of a float only its form matters here, and that it stays finite.
namespace Ranging.Toml

def isDigit (c : Char) : Bool := 48 ≤ c.toNat && c.toNat ≤ 57

def isHexDigit (c : Char) : Bool :=
  isDigit c || (97 ≤ c.toNat && c.toNat ≤ 102) || (65 ≤ c.toNat && c.toNat ≤ 70)

def isOctalDigit (c : Char) : Bool := 48 ≤ c.toNat && c.toNat ≤ 55

def isBinaryDigit (c : Char) : Bool := c = '0' || c = '1'

def digitValue (c : Char) : Nat :=
  if isDigit c then c.toNat - 48 else if 97 ≤ c.toNat then c.toNat - 87 else c.toNat - 55

def valueOf (base : Nat) (digits : List Char) : Nat :=
  digits.foldl (fun value c => value * base + digitValue c) 0

-- Digits with single underscores between them; an underscore before anything else is left over.
def moreDigits (ofBase : Char → Bool) : List Char → List Char × List Char
  | [] => ([], [])
  | c :: rest =>
      if ofBase c then
        let more := moreDigits ofBase rest
        (c :: more.1, more.2)
      else if c = '_' && rest.head?.any ofBase then moreDigits ofBase rest
      else ([], c :: rest)

def readDigits (ofBase : Char → Bool) : Reader (List Char)
  | c :: rest => if ofBase c then some (moreDigits ofBase (c :: rest)) else none
  | [] => none

def readDecimal : Reader (List Char)
  | '0' :: rest => some (['0'], rest)
  | cs => readDigits isDigit cs

def readSign : List Char → Bool × List Char
  | '-' :: rest => (true, rest)
  | '+' :: rest => (false, rest)
  | cs => (false, cs)

def signed (negative : Bool) (n : Nat) : Int := if negative then -(n : Int) else n

-- Integers are kept in 64 bits with a sign.
def inRange (i : Int) : Bool := -0x8000000000000000 ≤ i && i < 0x8000000000000000

def checked (i : Int) (rest : List Char) : Option (Int × List Char) :=
  if inRange i then some (i, rest) else none

def readInteger : Reader Int
  | '0' :: 'x' :: rest => (readDigits isHexDigit rest).bind fun r => checked (valueOf 16 r.1) r.2
  | '0' :: 'o' :: rest => (readDigits isOctalDigit rest).bind fun r => checked (valueOf 8 r.1) r.2
  | '0' :: 'b' :: rest => (readDigits isBinaryDigit rest).bind fun r => checked (valueOf 2 r.1) r.2
  | cs =>
      let sign := readSign cs
      (readDecimal sign.2).bind fun r => checked (signed sign.1 (valueOf 10 r.1)) r.2

-- `digits` times ten to `exponent` rounds to a number beyond the largest double. The bound lies
-- half a unit above that number; far from it the count of digits decides.
def overflows (digits : List Char) (exponent : Int) : Bool :=
  let value := valueOf 10 digits
  let bound := Nat.pow 2 1024 - Nat.pow 2 970
  let order := ((Nat.toDigits 10 value).length : Int) + exponent
  if value = 0 || order < 309 then false
  else if 309 < order then true
  else if 0 ≤ exponent then bound ≤ value * Nat.pow 10 exponent.toNat
  else bound * Nat.pow 10 (-exponent).toNat ≤ value

def readExponent : Reader Int
  | 'e' :: rest => exponent rest
  | 'E' :: rest => exponent rest
  | _ => none
where
  exponent (cs : List Char) : Option (Int × List Char) :=
    let sign := readSign cs
    (readDigits isDigit sign.2).map fun r => (signed sign.1 (valueOf 10 r.1), r.2)

-- A fraction, an exponent, or both. A float that would be infinite is refused; below zero it is not.
def readFloat (cs : List Char) : Option (List Char) :=
  let sign := readSign cs
  match readDecimal sign.2 with
  | none => none
  | some (whole, '.' :: rest) =>
      match readDigits isDigit rest with
      | none => none
      | some (fraction, rest) =>
          let (exponent, rest) := (readExponent rest).getD (0, rest)
          if !sign.1 && overflows (whole ++ fraction) (exponent - fraction.length) then none else some rest
  | some (whole, rest) =>
      match readExponent rest with
      | none => none
      | some (exponent, rest) => if !sign.1 && overflows whole exponent then none else some rest

def readSpecial (cs : List Char) : Option (List Char) :=
  match (readSign cs).2 with
  | 'i' :: 'n' :: 'f' :: rest => some rest
  | 'n' :: 'a' :: 'n' :: rest => some rest
  | _ => none

end Ranging.Toml
