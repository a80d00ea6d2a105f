/-!
# ResidualForm.Result

The result area: an output and an error. A failure keeps the output and hides it; the output comes
back into view when the error is cleared.
-/

namespace ResidualForm

/-- The output shown where no reconstruction applies. -/
def placeholder : String := "-"

/-- What the area shows. -/
inductive ResultView where
  | output (text : String)
  | error (text : String)
  deriving DecidableEq, Repr

namespace ResultView

def text : ResultView → String
  | .output text => text
  | .error text => text

def isError : ResultView → Bool
  | .output _ => false
  | .error _ => true

end ResultView

structure ResultArea where
  output : String := placeholder
  error : String := ""
  deriving DecidableEq, Repr

namespace ResultArea

def isReset (a : ResultArea) : Bool :=
  a.error == "" && a.output == placeholder

def succeed (_ : ResultArea) (output : String) : ResultArea :=
  { output, error := "" }

def fail (a : ResultArea) (error : String) : ResultArea :=
  { a with error }

/-- An error that is not empty hides the output. -/
def view (a : ResultArea) : ResultView :=
  if a.error = "" then .output a.output else .error a.error

end ResultArea
end ResidualForm
