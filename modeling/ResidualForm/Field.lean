import ResidualForm.Draft
import ResidualForm.Field.Digits

/-!
# ResidualForm.Field

The two kinds of input field. A residual field takes any character and reports what is wrong with
its content; it only bounds its length. The argument field takes a single digit and nothing else.
An edit gives the changed field, or nothing where the content would stay as it is.
-/

namespace ResidualForm

/-- A change of content, as opposed to a move of the cursor. -/
inductive Edit where
  | insert (c : Char)
  | paste (text : List Char)
  | backspace
  | delete
  | clear
  | replace (text : List Char)
  deriving DecidableEq, Repr

def greatestResidualLength : Nat := 16

structure ResidualField where
  draft : Draft := {}
  limit : Nat := greatestResidualLength
  deriving DecidableEq, Repr

namespace ResidualField

/-- An empty field that holds `limit` characters, and one at least. -/
def ofLimit (limit : Nat) : ResidualField :=
  { limit := max limit 1 }

def text (f : ResidualField) : List Char :=
  f.draft.text

def cursor (f : ResidualField) : Nat :=
  f.draft.cursor

def size (f : ResidualField) : Nat :=
  f.draft.size

def fault? (f : ResidualField) : Option DigitFault :=
  digitFault? f.limit f.text

def valid (f : ResidualField) : Bool :=
  f.fault?.isNone

/-- The greatest argument number that the form accepts beside this residual. -/
def greatestArgument (f : ResidualField) : Nat :=
  f.size

/-- The number shown beside the argument field: one more than the greatest, or 0 when empty. -/
def hint (f : ResidualField) : Nat :=
  if f.text.isEmpty then f.greatestArgument else f.greatestArgument + 1

def move (f : ResidualField) (m : Motion) : ResidualField :=
  { f with draft := f.draft.move m }

def edit (f : ResidualField) : Edit → Option ResidualField
  | .insert c => if f.limit ≤ f.size then none else some { f with draft := f.draft.insert c }
  | .paste text =>
    let accepted := text.take (f.limit - f.size)
    if accepted.isEmpty then none else some { f with draft := f.draft.paste accepted }
  | .backspace => f.draft.backspace.map fun draft => { f with draft }
  | .delete => f.draft.delete.map fun draft => { f with draft }
  | .clear => if f.text.isEmpty then none else some { f with draft := {} }
  | .replace text =>
    let kept := text.take f.limit
    if kept = f.text then none else some { f with draft := .ofText kept }

end ResidualField

structure ArgumentField where
  draft : Draft := {}
  deriving DecidableEq, Repr

namespace ArgumentField

def text (f : ArgumentField) : List Char :=
  f.draft.text

def cursor (f : ArgumentField) : Nat :=
  f.draft.cursor

def valid (f : ArgumentField) : Bool :=
  (digitFault? 1 f.text).isNone

def value? (f : ArgumentField) : Option Nat :=
  match f.text with
  | [c] => if c.isDigit then some (c.toNat - '0'.toNat) else none
  | _ => none

def move (f : ArgumentField) (m : Motion) : ArgumentField :=
  { f with draft := f.draft.move m }

/-- A digit goes in only where there is none. -/
def enter (f : ArgumentField) (c : Char) : Option ArgumentField :=
  if c.isDigit && f.text.isEmpty then some { f with draft := f.draft.insert c } else none

def edit (f : ArgumentField) : Edit → Option ArgumentField
  | .insert c => f.enter c
  | .paste text => (text.find? Char.isDigit).bind f.enter
  | .backspace => f.draft.backspace.map fun draft => { f with draft }
  | .delete => f.draft.delete.map fun draft => { f with draft }
  | .clear => if f.text.isEmpty then none else some { f with draft := {} }
  | .replace text =>
    let kept := (text.filter Char.isDigit).take 1
    if kept = f.text then none else some { f with draft := .ofText kept }

end ArgumentField
end ResidualForm
