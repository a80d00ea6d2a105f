/-!
# ResidualForm.Text.Decimal

Numbers written in decimal digits.
-/

namespace ResidualForm
namespace Text

def digitValue (c : Char) : Nat :=
  c.toNat - '0'.toNat

def decimalValue (digits : List Char) : Nat :=
  digits.foldl (fun value c => value * 10 + digitValue c) 0

/-- Reads a number that consists of digits only, and of one at least. -/
def decimal? (text : List Char) : Option Nat :=
  if text.isEmpty || !text.all Char.isDigit then none else some (decimalValue text)

/-- Reads a number below `bound`: digits, perhaps with a plus sign before them. -/
def unsigned? (bound : Nat) (text : List Char) : Option Nat :=
  let digits :=
    match text with
    | '+' :: rest => rest
    | rest => rest
  (decimal? digits).filter (· < bound)

end Text
end ResidualForm
