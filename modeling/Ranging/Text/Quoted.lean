import Ranging.Text.Hidden

-- Text in double quotes: quote and backslash get a backslash, four control characters have a
-- letter, every other hidden character is written by its number, and all else stands for itself.
namespace Ranging.Text

def hexadecimal (n : Nat) : List Char := Nat.toDigits 16 n

def escape (c : Char) : List Char :=
  match c with
  | '"' => ['\\', '"']
  | '\\' => ['\\', '\\']
  | '\n' => ['\\', 'n']
  | '\r' => ['\\', 'r']
  | '\t' => ['\\', 't']
  | '\x00' => ['\\', '0']
  | c => if isHidden c then ['\\', 'u', '\x7b'] ++ hexadecimal c.toNat ++ ['\x7d'] else [c]

def quotedChars (chars : List Char) : List Char := ['"'] ++ chars.flatMap escape ++ ['"']

def quoted (s : String) : String := String.ofList (quotedChars s.toList)

end Ranging.Text
