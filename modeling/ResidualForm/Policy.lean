import ResidualForm.Field
import ResidualForm.Text.Blank

/-!
# ResidualForm.Policy

When two residuals count as consistent with each other.
-/

namespace ResidualForm

/-- Whose characters have to be digits before two residuals of one length are consistent. -/
inductive Policy where
  | both
  | zeroOnly
  deriving DecidableEq, Repr

namespace Policy

def name : Policy → String
  | .both => "both"
  | .zeroOnly => "left-only"

/-- Reads a policy as a person writes it: in any case, between blanks, and under three names. -/
def parse? (text : List Char) : Option Policy :=
  let word := String.ofList ((Text.trim text).map Char.toLower)
  if word = "both" then some .both
  else if word = "left-only" || word = "left_only" || word = "left" then some .zeroOnly
  else none

def consistent (policy : Policy) (zero one : ResidualField) : Bool :=
  match policy with
  | .both => zero.valid && one.valid && zero.size == one.size
  | .zeroOnly => zero.valid && zero.size == one.size

end Policy
end ResidualForm
