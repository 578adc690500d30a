import Ranging.Toml.Blank

-- The four kinds of string: with escapes or literal, on one line or on several.
namespace Ranging.Toml

def hexValue? (c : Char) : Option Nat :=
  let n := c.toNat
  if 48 ≤ n && n ≤ 57 then some (n - 48)
  else if 97 ≤ n && n ≤ 102 then some (n - 87)
  else if 65 ≤ n && n ≤ 70 then some (n - 55)
  else none

def charOf? (n : Nat) : Option Char := if n.isValidChar then some (Char.ofNat n) else none

def escaped? : Char → Option Char
  | 'b' => some '\x08'
  | 't' => some '\t'
  | 'n' => some '\n'
  | 'f' => some '\x0c'
  | 'r' => some '\r'
  | '"' => some '"'
  | '\\' => some '\\'
  | _ => none

-- Where a string with escapes stands: in plain text (`trim`: after a line that was continued, so
-- that leading blanks and line ends vanish), behind a backslash, behind a backslash and blanks
-- before the line end they continue, or inside a character number.
inductive Escape
  | plain (trim : Bool)
  | started
  | continued
  | number (missing value : Nat)

-- Up to two quotes before the closing three belong to the text. `text` is kept back to front.
def closing (quote : Char) (text : List Char) : List Char → List Char × List Char
  | a :: b :: rest =>
      if a = quote && b = quote then (quote :: quote :: text, rest)
      else if a = quote then (quote :: text, b :: rest)
      else (text, a :: b :: rest)
  | [a] => if a = quote then ([quote] ++ text, []) else (text, [a])
  | [] => (text, [])

def closes (quote : Char) : List Char → Bool
  | a :: b :: _ => a = quote && b = quote
  | _ => false

def finished (r : List Char × List Char) : Option (String × List Char) :=
  some (String.ofList r.1.reverse, r.2)

def feedFollows : List Char → Bool
  | '\n' :: _ => true
  | _ => false

def escapedText (multi : Bool) : Escape → List Char → Reader String
  | _, _, [] => none
  | .plain trim, text, c :: rest =>
      if c = '"' then
        if !multi then finished (text, rest)
        else if closes '"' rest then finished (closing '"' text (rest.drop 2))
        else escapedText multi (.plain false) ('"' :: text) rest
      else if c = '\\' then escapedText multi .started text rest
      else if trim && isBlank c then escapedText multi (.plain true) text rest
      else if c = '\n' && multi then escapedText multi (.plain trim) (if trim then text else '\n' :: text) rest
      else if c = '\r' && multi && feedFollows rest then escapedText multi (.plain trim) text rest
      else if isVisible c then escapedText multi (.plain false) (c :: text) rest
      else none
  | .started, text, c :: rest =>
      match escaped? c with
      | some d => escapedText multi (.plain false) (d :: text) rest
      | none =>
          if c = 'u' then escapedText multi (.number 4 0) text rest
          else if c = 'U' then escapedText multi (.number 8 0) text rest
          else if multi && isBlank c then escapedText multi .continued text rest
          else if multi && c = '\n' then escapedText multi (.plain true) text rest
          else if multi && c = '\r' && feedFollows rest then escapedText multi .continued text rest
          else none
  | .continued, text, c :: rest =>
      if isBlank c then escapedText multi .continued text rest
      else if c = '\n' then escapedText multi (.plain true) text rest
      else if c = '\r' && feedFollows rest then escapedText multi .continued text rest
      else none
  | .number missing value, text, c :: rest =>
      match hexValue? c with
      | none => none
      | some d =>
          if missing ≤ 1 then
            match charOf? (16 * value + d) with
            | some e => escapedText multi (.plain false) (e :: text) rest
            | none => none
          else escapedText multi (.number (missing - 1) (16 * value + d)) text rest

def apostrophe : Char := '\x27'

def literalText (multi : Bool) : List Char → Reader String
  | _, [] => none
  | text, c :: rest =>
      if c = apostrophe then
        if !multi then finished (text, rest)
        else if closes apostrophe rest then finished (closing apostrophe text (rest.drop 2))
        else literalText multi (c :: text) rest
      else if c = '\n' && multi then literalText multi (c :: text) rest
      else if c = '\r' && multi && feedFollows rest then literalText multi text rest
      else if isVisible c then literalText multi (c :: text) rest
      else none

-- A line end right behind three opening quotes is not part of the text.
def skipFirstNewline (cs : List Char) : List Char := (newline? cs).getD cs

def readQuotedKey : Reader String
  | '"' :: rest => escapedText false (.plain false) [] rest
  | '\x27' :: rest => literalText false [] rest
  | _ => none

def readString : Reader String
  | '"' :: '"' :: '"' :: rest => escapedText true (.plain false) [] (skipFirstNewline rest)
  | '\x27' :: '\x27' :: '\x27' :: rest => literalText true [] (skipFirstNewline rest)
  | cs => readQuotedKey cs

end Ranging.Toml
