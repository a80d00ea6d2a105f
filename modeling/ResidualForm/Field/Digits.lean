/-!
# ResidualForm.Field.Digits

The rule for the content of a field: decimal digits, and not more than the field allows.
-/

namespace ResidualForm

/-- What is wrong with a text that should consist of at most so many digits. -/
inductive DigitFault where
  | nonDigit (position : Nat) (found : Char)
  | tooLong (length limit : Nat)
  deriving DecidableEq, Repr

def DigitFault.message : DigitFault → String
  | .nonDigit position found => s!"'{found}' at position {position} is not a decimal digit"
  | .tooLong length limit => s!"{length} characters exceeds the {limit}-character limit"

/-- The fault of a text, if it has one. The length goes first and counts single characters. -/
def digitFault? (limit : Nat) (text : List Char) : Option DigitFault :=
  if limit < text.length then some (.tooLong text.length limit)
  else
    match text.zipIdx.find? fun entry => !entry.1.isDigit with
    | some (found, position) => some (.nonDigit position found)
    | none => none

end ResidualForm
