import ResidualForm.Dispatcher

/-!
# ResidualForm.Exchange

A dispatcher together with the calls it has issued and the answers on their way back. The service
answers the calls in any order; answers reach the dispatcher in the order in which they were given.
-/

namespace ResidualForm

/-- A call as the service sees it. -/
structure Posted where
  call : Call
  answered : Bool := false
  deriving DecidableEq, Repr

inductive Delivery where
  | delivered
  | alreadyAnswered
  | noSuchCall
  deriving DecidableEq, Repr

inductive Reception where
  | idle
  | waiting
  | received (outcome : Outcome)
  deriving DecidableEq, Repr

structure Exchange where
  dispatcher : Dispatcher := {}
  /-- All calls issued so far, in order. -/
  calls : List Posted := []
  /-- Answers not yet taken in, oldest first. -/
  mailbox : List Completion := []
  deriving DecidableEq, Repr

namespace Exchange

def submit (x : Exchange) (readiness : Readiness) : Exchange × Evaluation :=
  match x.dispatcher.formChanged readiness with
  | (dispatcher, .issued call) =>
    ({ x with dispatcher, calls := x.calls ++ [{ call }] }, .issued call)
  | (dispatcher, evaluation) => ({ x with dispatcher }, evaluation)

/-- Answers call number `n`, unless it has its answer. -/
def answer (x : Exchange) (n : Nat) (a : Answer) : Exchange × Delivery :=
  match x.calls[n]? with
  | none => (x, .noSuchCall)
  | some posted =>
    if posted.answered then (x, .alreadyAnswered)
    else
      ({ x with
          calls := x.calls.set n { posted with answered := true }
          mailbox := x.mailbox ++ [{ call := posted.call, answer := a }] },
        .delivered)

/-- Answers every open call, in order, by what `service` makes of its request. -/
def answerAll (x : Exchange) (service : Request → Answer) : Exchange :=
  let opened := x.calls.filter fun posted => !posted.answered
  { x with
    calls := x.calls.map fun posted => { posted with answered := true }
    mailbox :=
      x.mailbox ++ opened.map fun posted =>
        { call := posted.call, answer := service posted.call.request } }

/-- Takes in every answer that has arrived, and counts those that were applied. -/
def poll (x : Exchange) : Exchange × Nat :=
  match x.dispatcher.drain x.mailbox with
  | (dispatcher, applied) => ({ x with dispatcher, mailbox := [] }, applied)

/-- Takes in the next answer. An exchange with no call in flight does not wait for one. -/
def next (x : Exchange) : Exchange × Reception :=
  if x.dispatcher.inFlight = 0 then (x, .idle)
  else
    match x.mailbox with
    | [] => (x, .waiting)
    | c :: rest =>
      match x.dispatcher.consume c with
      | (dispatcher, outcome) => ({ x with dispatcher, mailbox := rest }, .received outcome)

def requests (x : Exchange) : List Request :=
  x.calls.map fun posted => posted.call.request

end Exchange
end ResidualForm
