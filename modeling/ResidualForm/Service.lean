import ResidualForm.Form
import ResidualForm.TruthVector
import ResidualForm.Text.Decimal
import ResidualForm.Text.Quoted

/-!
# ResidualForm.Service

What a reconstruction service answers, and the answer this library computes itself.
-/

namespace ResidualForm

/-- Why a call gave no function: the service refused the request, or the call broke down. -/
inductive Failure where
  | rejected (message : String)
  | failed (message : String)
  deriving DecidableEq, Repr

namespace Failure

def message : Failure → String
  | .rejected message => message
  | .failed message => "reconstruction failed: " ++ message

/-- The message that is shown: a blank one is replaced. -/
def shownMessage (f : Failure) : String :=
  if Text.allBlank f.message.toList then (failed "no error message").message else f.message

/-- The failure of a call whose task broke down, with the last words of the task if it had any. -/
def ofCrash (task : String) (lastWords : Option (List Char)) : Failure :=
  match lastWords with
  | none => .failed s!"task {task} panicked"
  | some text =>
    .failed s!"task {task} panicked with message {String.ofList (Text.quoted text)}"

end Failure

inductive Answer where
  | function (digits : String)
  | failure (reason : Failure)
  deriving DecidableEq, Repr

/-- Reads an argument number: digits, perhaps a plus sign before them, blanks around them, and a
value below 2^32. -/
def argumentNumber? (text : List Char) : Option Nat :=
  Text.unsigned? 0x100000000 (Text.trim text)

namespace Request

def reconstruct (r : Request) : Answer :=
  match argumentNumber? r.argument with
  | none =>
    .failure (.rejected s!"argument number '{String.ofList r.argument}' is not a number")
  | some argument =>
    match TruthVector.ofResiduals r.zero r.one argument with
    | .ok f => .function (String.ofList f.digits)
    | .error e => .failure (.rejected e.message)

end Request
end ResidualForm
