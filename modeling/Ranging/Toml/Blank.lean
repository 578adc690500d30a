-- Blanks, line ends and comments. A reader takes the characters that are left and answers
-- what it read together with the rest, or nothing when the text has no such part there.
namespace Ranging.Toml

abbrev Reader (α : Type) := List Char → Option (α × List Char)

def isBlank (c : Char) : Bool := c = ' ' || c = '\t'

def skipBlanks (cs : List Char) : List Char := cs.dropWhile isBlank

-- A carriage return counts only before a line feed.
def newline? : List Char → Option (List Char)
  | '\n' :: rest => some rest
  | '\r' :: '\n' :: rest => some rest
  | _ => none

-- No control character but the tab may stand in a comment or in a string.
def isVisible (c : Char) : Bool := c = '\t' || (0x20 ≤ c.toNat && c.toNat ≠ 0x7f)

def skipComment : List Char → List Char
  | '#' :: rest => rest.dropWhile isVisible
  | cs => cs

-- The end of a line that holds nothing more but blanks and a comment. The text may end there too.
def lineEnd? (cs : List Char) : Option (List Char) :=
  match skipComment (skipBlanks cs) with
  | [] => some []
  | rest => newline? rest

-- Inside an array, line ends and comments separate like blanks.
def skipTriviaFrom (inComment : Bool) : List Char → List Char
  | [] => []
  | '\n' :: rest => skipTriviaFrom false rest
  | '\r' :: '\n' :: rest => skipTriviaFrom false rest
  | c :: rest =>
      if inComment then (if isVisible c then skipTriviaFrom true rest else c :: rest)
      else if isBlank c then skipTriviaFrom false rest
      else if c = '#' then skipTriviaFrom true rest
      else c :: rest

def skipTrivia (cs : List Char) : List Char := skipTriviaFrom false cs

end Ranging.Toml
