/-!
# ResidualForm.Options

How the form is to be displayed.
-/

namespace ResidualForm

structure DisplayOptions where
  /-- Use no sign outside ASCII for the marks of the fields. -/
  asciiOnly : Bool := false
  highContrast : Bool := false
  deriving DecidableEq, Repr

end ResidualForm
