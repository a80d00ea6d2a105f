import ResidualForm.Text.Utf8

/-!
# ResidualForm.Toml.Quotation

Strings in quotes. Double quotes allow escapes, single quotes do not; three of a kind hold several
lines. Control characters other than the tab are refused everywhere.
-/

namespace ResidualForm
namespace Toml

def isForbidden (c : Char) : Bool :=
  (c.toNat < 0x20 && c ≠ '\t') || c.toNat = 0x7F

def hexValue? (c : Char) : Option Nat :=
  if c.isDigit then some (c.toNat - '0'.toNat)
  else if 'a' ≤ c && c ≤ 'f' then some (c.toNat - 'a'.toNat + 10)
  else if 'A' ≤ c && c ≤ 'F' then some (c.toNat - 'A'.toNat + 10)
  else none

/-- Where the reader of a string stands. -/
inductive Place where
  | content
  /-- After a backslash. -/
  | escape
  /-- Inside a code point, with so many digits to come. -/
  | code (digits value : Nat)
  /-- Between a backslash and the end of its line. -/
  | lineEnd
  /-- In the blank space after such a line. -/
  | indent

/-- The character that a letter after a backslash stands for. -/
def escaped? (c : Char) : Option Char :=
  match c with
  | 'b' => some '\x08'
  | 't' => some '\t'
  | 'n' => some '\n'
  | 'f' => some '\x0c'
  | 'r' => some '\r'
  | 'e' => some '\x1b'
  | '"' => some '"'
  | '\\' => some '\\'
  | _ => none

/-- The number of digits in the code point that a letter after a backslash announces. -/
def codeLength? (c : Char) : Option Nat :=
  match c with
  | 'x' => some 2
  | 'u' => some 4
  | 'U' => some 8
  | _ => none

def consText (c : Char) : Option (List Char × List Char) → Option (List Char × List Char)
  | some (text, rest) => some (c :: text, rest)
  | none => none

/-- After the closing quotes of a long string up to two more belong to its text. -/
def closeLong (quote : Char) : List Char → List Char × List Char
  | a :: b :: rest =>
    if a = quote then (if b = quote then ([quote, quote], rest) else ([quote], b :: rest))
    else ([], a :: b :: rest)
  | [a] => if a = quote then ([quote], []) else ([], [a])
  | [] => ([], [])

/-- Reads up to the closing double quote; the result is the text and what follows. -/
def readShort (place : Place) : List Char → Option (List Char × List Char)
  | [] => none
  | c :: rest =>
    match place with
    | .content =>
      if c = '"' then some ([], rest)
      else if c = '\\' then readShort .escape rest
      else if isForbidden c then none
      else consText c (readShort .content rest)
    | .escape =>
      match escaped? c, codeLength? c with
      | some e, _ => consText e (readShort .content rest)
      | none, some digits => readShort (.code digits 0) rest
      | none, none => none
    | .code digits value =>
      match hexValue? c with
      | none => none
      | some d =>
        if digits ≤ 1 then
          match Text.character? (value * 16 + d) with
          | some e => consText e (readShort .content rest)
          | none => none
        else readShort (.code (digits - 1) (value * 16 + d)) rest
    | _ => none

/-- Reads up to three closing double quotes. A backslash at the end of a line joins it with the
next text. -/
def readLong (place : Place) : List Char → Option (List Char × List Char)
  | [] => none
  | '"' :: '"' :: '"' :: rest =>
    match place with
    | .content => some (closeLong '"' rest)
    | .indent => some (closeLong '"' rest)
    | .escape => consText '"' (readLong .content ('"' :: '"' :: rest))
    | _ => none
  | '\r' :: '\n' :: rest =>
    match place with
    | .content => consText '\r' (consText '\n' (readLong .content rest))
    | .escape => readLong .indent rest
    | .lineEnd => readLong .indent rest
    | .indent => readLong .indent rest
    | .code _ _ => none
  | c :: rest =>
    match place with
    | .content =>
      if c = '\\' then readLong .escape rest
      else if isForbidden c && c ≠ '\n' then none
      else consText c (readLong .content rest)
    | .indent =>
      if c = ' ' || c = '\t' || c = '\n' then readLong .indent rest
      else if c = '\\' then readLong .escape rest
      else if isForbidden c then none
      else consText c (readLong .content rest)
    | .lineEnd =>
      if c = '\n' then readLong .indent rest
      else if c = ' ' || c = '\t' then readLong .lineEnd rest
      else none
    | .escape =>
      if c = '\n' then readLong .indent rest
      else if c = ' ' || c = '\t' then readLong .lineEnd rest
      else
        match escaped? c, codeLength? c with
        | some e, _ => consText e (readLong .content rest)
        | none, some digits => readLong (.code digits 0) rest
        | none, none => none
    | .code digits value =>
      match hexValue? c with
      | none => none
      | some d =>
        if digits ≤ 1 then
          match Text.character? (value * 16 + d) with
          | some e => consText e (readLong .content rest)
          | none => none
        else readLong (.code (digits - 1) (value * 16 + d)) rest

def readLiteral : List Char → Option (List Char × List Char)
  | [] => none
  | c :: rest =>
    if c = '\'' then some ([], rest)
    else if isForbidden c then none
    else consText c (readLiteral rest)

def readLongLiteral : List Char → Option (List Char × List Char)
  | [] => none
  | '\'' :: '\'' :: '\'' :: rest => some (closeLong '\'' rest)
  | '\r' :: '\n' :: rest => consText '\r' (consText '\n' (readLongLiteral rest))
  | c :: rest =>
    if isForbidden c && c ≠ '\n' then none else consText c (readLongLiteral rest)

/-- The text of a long string without a line end at its very beginning. -/
def dropLineEnd : List Char → List Char
  | '\n' :: rest => rest
  | '\r' :: '\n' :: rest => rest
  | text => text

def readString : List Char → Option (List Char × List Char)
  | '"' :: '"' :: '"' :: rest => readLong .content (dropLineEnd rest)
  | '"' :: rest => readShort .content rest
  | '\'' :: '\'' :: '\'' :: rest => readLongLiteral (dropLineEnd rest)
  | '\'' :: rest => readLiteral rest
  | _ => none

end Toml
end ResidualForm
