import ResidualForm.Text.Property.Joining
import ResidualForm.Text.Property.Printable

/-!
# ResidualForm.Text.Quoted

A text between quotes, in printable characters only: what would break the quotes or the line is
escaped by a letter, and what cannot be seen on its own by its code point.
-/

namespace ResidualForm
namespace Text

def hexDigit (n : Nat) : Char :=
  (['0', '1', '2', '3', '4', '5', '6', '7', '8', '9', 'a', 'b', 'c', 'd', 'e', 'f'][n]?).getD '0'

/-- The `n` last digits of a number in base 16, without leading zeros. -/
def hexDigits : Nat → Nat → List Char
  | 0, _ => []
  | n + 1, v => (if v / 16 = 0 then [] else hexDigits n (v / 16)) ++ [hexDigit (v % 16)]

/-- Marks are escaped although they print: after a quote they would attach to it. -/
def printable (c : Char) : Bool :=
  if c.toNat < 0x7F then 0x20 ≤ c.toNat else !unprintable.has c && !graphemeExtend.has c

def escape (c : Char) : List Char :=
  if c = '\x00' then ['\\', '0']
  else if c = '\t' then ['\\', 't']
  else if c = '\r' then ['\\', 'r']
  else if c = '\n' then ['\\', 'n']
  else if c = '\\' then ['\\', '\\']
  else if c = '"' then ['\\', '"']
  else if printable c then [c]
  else ['\\', 'u', '{'] ++ hexDigits 6 c.toNat ++ ['}']

def quoted (text : List Char) : List Char :=
  '"' :: text.flatMap escape ++ ['"']

end Text
end ResidualForm
