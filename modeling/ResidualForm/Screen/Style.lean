/-!
# ResidualForm.Screen.Style

Colours and text styles. A style names only what it sets; the rest shows through from below.
-/

namespace ResidualForm
namespace Screen

inductive Color where
  | reset
  | black
  | gray
  | darkGray
  | white
  | cyan
  | green
  | red
  | yellow
  | rgb (red green blue : Nat)
  deriving DecidableEq, Repr

structure Style where
  fg : Option Color := none
  bg : Option Color := none
  bold : Bool := false
  deriving DecidableEq, Repr

end Screen
end ResidualForm
