import ResidualForm.Result
import ResidualForm.Revision
import ResidualForm.Service

/-!
# ResidualForm.Dispatcher

The dispatcher turns the readiness of the form into calls of the service, and answers into what the
result area shows. Every change of the form starts a new revision; only the answer to the call of
the revision it waits for is let in, whatever order the answers come in.
-/

namespace ResidualForm

/-- A request under way, with the revision it belongs to. -/
structure Call where
  revision : Revision
  request : Request
  deriving DecidableEq, Repr

structure Completion where
  call : Call
  answer : Answer
  deriving DecidableEq, Repr

inductive Evaluation where
  | reset
  | held (reason : HoldReason)
  | issued (call : Call)
  deriving DecidableEq, Repr

inductive Outcome where
  | applied
  | superseded
  deriving DecidableEq, Repr

structure Dispatcher where
  revision : Revision := .first
  /-- The revision of the call whose answer is still wanted. -/
  awaited : Option Revision := none
  result : ResultArea := {}
  /-- Calls whose answer has not been taken in, wanted or not. -/
  inFlight : Nat := 0
  issued : Nat := 0
  deriving DecidableEq, Repr

namespace Dispatcher

/-- Starts a new revision for a form of the given readiness. -/
def formChanged (d : Dispatcher) (readiness : Readiness) : Dispatcher × Evaluation :=
  let revision := d.revision.next
  match readiness with
  | .incomplete => ({ d with revision, awaited := none, result := {} }, .reset)
  | .hold reason => ({ d with revision, awaited := none }, .held reason)
  | .ready request =>
    ({ d with
        revision
        awaited := some revision
        inFlight := d.inFlight + 1
        issued := d.issued + 1 },
      .issued { revision, request })

/-- Lets an answer in if it is the awaited one. -/
def receive (d : Dispatcher) (c : Completion) : Dispatcher × Outcome :=
  if d.awaited = some c.call.revision then
    match c.answer with
    | .function digits =>
      ({ d with awaited := none, result := d.result.succeed digits }, .applied)
    | .failure reason =>
      ({ d with awaited := none, result := d.result.fail reason.shownMessage }, .applied)
  else (d, .superseded)

def consume (d : Dispatcher) (c : Completion) : Dispatcher × Outcome :=
  { d with inFlight := d.inFlight - 1 }.receive c

/-- Takes answers in one after the other and counts those that were applied. -/
def drain (d : Dispatcher) : List Completion → Dispatcher × Nat
  | [] => (d, 0)
  | c :: rest =>
    match d.consume c with
    | (d, .applied) =>
      match d.drain rest with
      | (d, n) => (d, n + 1)
    | (d, .superseded) => d.drain rest

end Dispatcher
end ResidualForm
