import ResidualForm.Exchange

/-!
# ResidualForm.Proofs.Exchange.Run

Runs of an exchange: any interleaving of changed forms, answers and demands for answers.

* `Exchange.run`     — the exchange after a list of acts.
* `Exchange.intakes` — the answers taken in on the way, each with the dispatcher that took it.
* `drain_eq`         — taking a whole mailbox in is taking its answers in one by one.
* `Exchange.dispatcher_step` — what is taken in is what the dispatcher of the exchange has heard of.
-/

namespace ResidualForm

/-- What a service answers to the call of a given number. Calls are numbered from 0 in the order in
which they are issued, so a service may answer the same request in different ways. -/
abbrev Service := Nat → Request → Answer

/-- An answer on its way in: the dispatcher that takes it, and the answer with its call. -/
structure Intake where
  dispatcher : Dispatcher
  completion : Completion

namespace Intake

def outcome (i : Intake) : Outcome :=
  (i.dispatcher.consume i.completion).2

/-- The dispatcher after it has taken the answer. -/
def after (i : Intake) : Dispatcher :=
  (i.dispatcher.consume i.completion).1

end Intake

namespace Dispatcher

theorem consume_function {d : Dispatcher} {c : Completion} {digits : String}
    (ha : d.awaited = some c.call.revision) (hc : c.answer = .function digits) :
    d.consume c =
      ({ d with
          awaited := none
          result := d.result.succeed digits
          inFlight := d.inFlight - 1 },
        .applied) := by
  simp [consume, receive, ha, hc]

theorem consume_failure {d : Dispatcher} {c : Completion} {reason : Failure}
    (ha : d.awaited = some c.call.revision) (hc : c.answer = .failure reason) :
    d.consume c =
      ({ d with
          awaited := none
          result := d.result.fail reason.shownMessage
          inFlight := d.inFlight - 1 },
        .applied) := by
  simp [consume, receive, ha, hc]

theorem consume_superseded {d : Dispatcher} {c : Completion}
    (ha : d.awaited ≠ some c.call.revision) :
    d.consume c = ({ d with inFlight := d.inFlight - 1 }, .superseded) := by
  simp [consume, receive, ha]

/-- All that an answer can change, whether it is let in or not. -/
theorem consume_eq (d : Dispatcher) (c : Completion) :
    ∃ awaited result,
      (d.consume c).1 = { d with awaited, result, inFlight := d.inFlight - 1 } := by
  by_cases ha : d.awaited = some c.call.revision
  · cases hc : c.answer with
    | function digits => exact ⟨_, _, by rw [consume_function ha hc]⟩
    | failure reason => exact ⟨_, _, by rw [consume_failure ha hc]⟩
  · exact ⟨_, _, by rw [consume_superseded ha]⟩

theorem revision_consume (d : Dispatcher) (c : Completion) :
    (d.consume c).1.revision = d.revision := by
  obtain ⟨_, _, h⟩ := d.consume_eq c
  rw [h]

theorem issued_consume (d : Dispatcher) (c : Completion) : (d.consume c).1.issued = d.issued := by
  obtain ⟨_, _, h⟩ := d.consume_eq c
  rw [h]

theorem inFlight_consume (d : Dispatcher) (c : Completion) :
    (d.consume c).1.inFlight = d.inFlight - 1 := by
  obtain ⟨_, _, h⟩ := d.consume_eq c
  rw [h]

/-- What no answer changes is the same after any number of them. -/
theorem foldl_consume {α : Type} {f : Dispatcher → α} (hf : ∀ d c, f (d.consume c).1 = f d)
    (d : Dispatcher) (mailbox : List Completion) :
    f (mailbox.foldl (fun d c => (d.consume c).1) d) = f d := by
  induction mailbox generalizing d with
  | nil => rfl
  | cons c rest ih => rw [List.foldl_cons, ih, hf]

/-- The answers of a mailbox as they are taken in, one after the other. -/
def intakes (d : Dispatcher) : List Completion → List Intake
  | [] => []
  | c :: rest => ⟨d, c⟩ :: intakes (d.consume c).1 rest

/-- The dispatcher that has taken them all is the one that has taken the last of them. -/
theorem foldl_intakes (d : Dispatcher) (mailbox : List Completion) :
    (d.intakes mailbox).foldl (fun _ i => i.after) d =
      mailbox.foldl (fun d c => (d.consume c).1) d := by
  induction mailbox generalizing d with
  | nil => rfl
  | cons c rest ih =>
    rw [intakes, List.foldl_cons, List.foldl_cons, ← ih]
    rfl

theorem drain_eq (d : Dispatcher) (mailbox : List Completion) :
    d.drain mailbox =
      (mailbox.foldl (fun d c => (d.consume c).1) d,
        (d.intakes mailbox).countP fun i => i.outcome = .applied) := by
  induction mailbox generalizing d with
  | nil => rfl
  | cons c rest ih =>
    rw [drain]
    split
    · rename_i d' h
      simp [ih, h, intakes, Intake.outcome]
    · rename_i d' h
      simp [ih, h, intakes, Intake.outcome]

end Dispatcher

/-- A new form with three texts put into it. -/
def Form.ofTexts (zero one argument : String) : Form :=
  ((Form.ofSettings {}).replaceAll zero.toList one.toList argument.toList).getD (.ofSettings {})

namespace Exchange

inductive Act where
  | submit (form : Form)
  /-- The service answers the call of this number. -/
  | answer (call : Nat)
  | poll
  | next

/-- The number of times the form changed. -/
def submits (acts : List Act) : Nat :=
  acts.countP fun
    | .submit _ => true
    | _ => false

theorem submits_cons (act : Act) (acts : List Act) :
    submits (act :: acts) = submits [act] + submits acts := by
  rw [submits, ← List.singleton_append, List.countP_append]
  rfl

def step (service : Service) (x : Exchange) : Act → Exchange
  | .submit form => (x.submit form.readiness).1
  | .answer n =>
    match x.calls[n]? with
    | none => x
    | some posted => (x.answer n (service n posted.call.request)).1
  | .poll => x.poll.1
  | .next => x.next.1

def run (service : Service) (x : Exchange) (acts : List Act) : Exchange :=
  acts.foldl (step service) x

/-- The answers that one act takes in. -/
def taken (x : Exchange) : Act → List Intake
  | .submit _ => []
  | .answer _ => []
  | .poll => x.dispatcher.intakes x.mailbox
  | .next => if x.dispatcher.inFlight = 0 then [] else x.dispatcher.intakes (x.mailbox.take 1)

/-- The answers that a run takes in, in their order. -/
def intakes (service : Service) (x : Exchange) : List Act → List Intake
  | [] => []
  | act :: acts => x.taken act ++ intakes service (x.step service act) acts

@[simp] theorem run_nil (service : Service) (x : Exchange) : x.run service [] = x := rfl

@[simp] theorem run_cons (service : Service) (x : Exchange) (act : Act) (acts : List Act) :
    x.run service (act :: acts) = (x.step service act).run service acts := rfl

theorem run_append (service : Service) (x : Exchange) (acts more : List Act) :
    x.run service (acts ++ more) = (x.run service acts).run service more :=
  List.foldl_append

theorem poll_eq (x : Exchange) :
    x.poll =
      ({ x with
          dispatcher := x.mailbox.foldl (fun d c => (d.consume c).1) x.dispatcher
          mailbox := [] },
        (x.taken .poll).countP fun i => i.outcome = .applied) := by
  simp [poll, Dispatcher.drain_eq, taken]

theorem poll_of_empty {x : Exchange} (hm : x.mailbox = []) : x.poll.1 = x := by
  obtain ⟨dispatcher, calls, mailbox⟩ := x
  subst hm
  rfl

theorem poll_of_cons {x : Exchange} {c : Completion} {rest : List Completion}
    (hm : x.mailbox = c :: rest) :
    x.poll.1 =
      { x with dispatcher := (x.dispatcher.consume c).1, mailbox := rest }.poll.1 := by
  simp [poll_eq, hm]

/-- One answer at most is taken in by `next`, and its outcome is what is reported. -/
theorem next_eq (x : Exchange) :
    x.next =
      match x.taken .next with
      | [] => (x, if x.dispatcher.inFlight = 0 then .idle else .waiting)
      | i :: _ => ({ x with dispatcher := i.after, mailbox := x.mailbox.tail }, .received i.outcome) := by
  by_cases h : x.dispatcher.inFlight = 0
  · simp [next, taken, h]
  · cases hm : x.mailbox with
    | nil => simp [next, taken, h, hm, Dispatcher.intakes]
    | cons c rest => simp [next, taken, h, hm, Dispatcher.intakes, Intake.after, Intake.outcome]

theorem intakes_append (service : Service) (x : Exchange) (acts more : List Act) :
    intakes service x (acts ++ more) =
      intakes service x acts ++ intakes service (x.run service acts) more := by
  induction acts generalizing x with
  | nil => rfl
  | cons act acts ih => rw [List.cons_append, intakes, ih, intakes, List.append_assoc, run_cons]

theorem intakes_concat (service : Service) (x : Exchange) (acts : List Act) (act : Act) :
    intakes service x (acts ++ [act]) =
      intakes service x acts ++ (x.run service acts).taken act := by
  rw [intakes_append, intakes, intakes, List.append_nil]

theorem dispatcher_answer (x : Exchange) (n : Nat) (a : Answer) :
    (x.answer n a).1.dispatcher = x.dispatcher := by
  rw [answer]
  split
  · rfl
  · split <;> rfl

/-- Between two edits the answers taken in are all that the dispatcher hears of. -/
theorem dispatcher_step (service : Service) (x : Exchange) {act : Act} (hn : submits [act] = 0) :
    (x.step service act).dispatcher = (x.taken act).foldl (fun _ i => i.after) x.dispatcher := by
  cases act with
  | submit form => cases hn
  | answer n =>
    rw [step, taken]
    split
    · rfl
    · exact x.dispatcher_answer _ _
  | poll => rw [step, poll_eq, taken, Dispatcher.foldl_intakes]
  | next =>
    rw [step, next_eq]
    cases hm : x.mailbox with
    | nil => simp [taken, hm, Dispatcher.intakes]
    | cons c rest =>
      by_cases hf : x.dispatcher.inFlight = 0 <;> simp [taken, hm, hf, Dispatcher.intakes]

end Exchange
end ResidualForm
