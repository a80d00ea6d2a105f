import ResidualForm.Policy

/-!
# ResidualForm.Form

The form: two residual fields, an argument field, and the rule that decides whether their contents
make a request. The rule reads the contents alone; the cursor and the consistency policy have no
say in it.
-/

namespace ResidualForm

/-- The places of the form, in their order on the screen. -/
inductive Slot where
  | zero
  | one
  | argument
  deriving DecidableEq, Repr

namespace Slot

def all : List Slot := [.zero, .one, .argument]

def label : Slot → String
  | .zero => "Zero residual"
  | .one => "One residual"
  | .argument => "Argument number"

def next : Slot → Slot
  | .zero => .one
  | .one => .argument
  | .argument => .zero

def previous : Slot → Slot
  | .zero => .argument
  | .one => .zero
  | .argument => .one

end Slot

structure FormSettings where
  residualLimit : Nat := greatestResidualLength
  policy : Policy := .both
  /-- Refuse an argument number that is greater than the zero residual is long. -/
  boundArgument : Bool := true
  deriving DecidableEq, Repr

/-- Brings the length limit into the range from 1 to 16. -/
def FormSettings.clamp (s : FormSettings) : FormSettings :=
  { s with residualLimit := min (max s.residualLimit 1) greatestResidualLength }

/-- What is asked of the service: the three texts as they stand in the form. -/
structure Request where
  zero : List Char
  one : List Char
  argument : List Char
  deriving DecidableEq, Repr

/-- Why a filled form makes no request. -/
inductive HoldReason where
  | zeroFormat
  | oneFormat
  | argumentFormat
  | lengthMismatch (zeroLength oneLength : Nat)
  | argumentOutOfBounds (argument greatest : Nat)
  deriving DecidableEq, Repr

inductive Readiness where
  | incomplete
  | hold (reason : HoldReason)
  | ready (request : Request)
  deriving DecidableEq, Repr

structure Form where
  zero : ResidualField
  one : ResidualField
  argument : ArgumentField
  settings : FormSettings
  deriving DecidableEq, Repr

namespace Form

def ofSettings (s : FormSettings) : Form :=
  { zero := .ofLimit s.clamp.residualLimit
    one := .ofLimit s.clamp.residualLimit
    argument := {}
    settings := s.clamp }

def text (f : Form) : Slot → List Char
  | .zero => f.zero.text
  | .one => f.one.text
  | .argument => f.argument.text

def cursor (f : Form) : Slot → Nat
  | .zero => f.zero.cursor
  | .one => f.one.cursor
  | .argument => f.argument.cursor

def consistent (f : Form) : Bool :=
  f.settings.policy.consistent f.zero f.one

def request (f : Form) : Request :=
  { zero := f.zero.text, one := f.one.text, argument := f.argument.text }

/-- The first rule that the contents break decides. -/
def readiness (f : Form) : Readiness :=
  if f.zero.text.isEmpty || f.one.text.isEmpty || f.argument.text.isEmpty then .incomplete
  else if !f.zero.valid then .hold .zeroFormat
  else if !f.one.valid then .hold .oneFormat
  else
    match f.argument.value? with
    | none => .hold .argumentFormat
    | some argument =>
      if f.zero.size ≠ f.one.size then .hold (.lengthMismatch f.zero.size f.one.size)
      else if f.settings.boundArgument && f.zero.greatestArgument < argument then
        .hold (.argumentOutOfBounds argument f.zero.greatestArgument)
      else .ready f.request

def outOfBounds (f : Form) : Bool :=
  match f.readiness with
  | .hold (.argumentOutOfBounds _ _) => true
  | _ => false

/-- Whether the mark beside a field says that all is well. -/
def indicator (f : Form) : Slot → Bool
  | .zero => f.zero.valid
  | .one => f.consistent
  | .argument => f.argument.valid && !f.outOfBounds

def move (f : Form) (slot : Slot) (m : Motion) : Form :=
  match slot with
  | .zero => { f with zero := f.zero.move m }
  | .one => { f with one := f.one.move m }
  | .argument => { f with argument := f.argument.move m }

/-- The form after an edit of one field, or nothing if the edit changes nothing. -/
def edit (f : Form) (slot : Slot) (e : Edit) : Option Form :=
  match slot with
  | .zero => (f.zero.edit e).map fun zero => { f with zero }
  | .one => (f.one.edit e).map fun one => { f with one }
  | .argument => (f.argument.edit e).map fun argument => { f with argument }

def replaceAll (f : Form) (zero one argument : List Char) : Option Form :=
  match f.zero.edit (.replace zero), f.one.edit (.replace one),
      f.argument.edit (.replace argument) with
  | none, none, none => none
  | z, o, a =>
    some
      { f with
        zero := z.getD f.zero
        one := o.getD f.one
        argument := a.getD f.argument }

end Form
end ResidualForm
