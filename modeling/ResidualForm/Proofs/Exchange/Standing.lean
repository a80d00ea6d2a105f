import ResidualForm.Proofs.Exchange.Outgoing

/-!
# ResidualForm.Proofs.Exchange.Standing

How an exchange stands: what it shows, and the request that it waits for. How many revisions and calls
it took to get there, and which answers are still to come in, is no part of it.

* `standing_submit`           — a changed form acts on the standing by its verdict.
* `Standing.submit_submit`    — a verdict leaves no trace behind the next one, unless it alone was of a
  form with an empty field, which clears the result.
* `standing_answer`           — an answer on its way changes nothing.
* `waits_submit`, `Waits.step` — what is waited for is the request of the last form.
-/

namespace ResidualForm

structure Standing where
  result : ResultArea := {}
  awaiting : Bool := false
  request : Option Request := none
  deriving DecidableEq, Repr

namespace Standing

/-- The standing after a changed form of this verdict. -/
def submit (s : Standing) : Readiness → Standing
  | .incomplete => {}
  | .hold _ => { result := s.result }
  | .ready request => { result := s.result, awaiting := true, request := some request }

theorem submit_submit (s : Standing) {first second : Readiness}
    (h : first = .incomplete → second = .incomplete) :
    (s.submit first).submit second = s.submit second := by
  cases first with
  | incomplete => rw [h rfl]; rfl
  | hold reason => cases second <;> rfl
  | ready request => cases second <;> rfl

end Standing

namespace Exchange

/-- The call of the awaited revision; of several, which only the last revision can have, the newest. -/
def awaitedCall? (x : Exchange) : Option Call :=
  x.dispatcher.awaited.bind fun revision =>
    (x.calls.map Posted.call).reverse.find? fun call => call.revision = revision

def standing (x : Exchange) : Standing :=
  { result := x.dispatcher.result
    awaiting := x.dispatcher.awaited.isSome
    request := x.awaitedCall?.map Call.request }

theorem standing_submit (x : Exchange) (readiness : Readiness) :
    (x.submit readiness).1.standing = x.standing.submit readiness := by
  cases readiness <;>
    simp [submit, Dispatcher.formChanged, standing, awaitedCall?, Standing.submit]

theorem standing_answer (x : Exchange) (n : Nat) (a : Answer) :
    (x.answer n a).1.standing = x.standing := by
  simp only [standing, awaitedCall?, dispatcher_answer, map_call_answer]

end Exchange

theorem Dispatcher.awaited_consume (d : Dispatcher) (c : Completion) :
    (d.consume c).1.awaited = d.awaited ∨ (d.consume c).1.awaited = none := by
  by_cases ha : d.awaited = some c.call.revision
  · cases hc : c.answer with
    | function digits => exact .inr (by rw [consume_function ha hc])
    | failure reason => exact .inr (by rw [consume_failure ha hc])
  · exact .inl (by rw [consume_superseded ha])

theorem Dispatcher.awaited_foldl_consume (d : Dispatcher) (mailbox : List Completion) :
    (mailbox.foldl (fun d c => (d.consume c).1) d).awaited = d.awaited ∨
      (mailbox.foldl (fun d c => (d.consume c).1) d).awaited = none := by
  induction mailbox generalizing d with
  | nil => exact .inl rfl
  | cons c rest ih =>
    rw [List.foldl_cons]
    rcases ih (d.consume c).1 with h | h
    · rw [h]
      exact d.awaited_consume c
    · exact .inr h

namespace Exchange

/-- If a call is awaited, it is one with this request. -/
def Waits (x : Exchange) (request : Request) : Prop :=
  x.standing.awaiting = true → x.standing.request = some request

variable {x y : Exchange} {request : Request}

theorem waits_empty (request : Request) : Waits {} request :=
  fun hw => absurd hw Bool.false_ne_true

/-- The request of a form that is ready is waited for; otherwise there is nothing to wait for. -/
theorem waits_submit (x : Exchange) {readiness : Readiness}
    (h : ∀ r, readiness = .ready r → r = request) : (x.submit readiness).1.Waits request := by
  rw [Waits, standing_submit]
  cases readiness with
  | incomplete => exact fun hw => absurd hw Bool.false_ne_true
  | hold reason => exact fun hw => absurd hw Bool.false_ne_true
  | ready r => exact fun _ => congrArg some (h r rfl)

theorem Waits.of_awaited (h : x.Waits request)
    (ha : y.dispatcher.awaited = x.dispatcher.awaited ∨ y.dispatcher.awaited = none)
    (hc : y.calls = x.calls) : y.Waits request := by
  intro hw
  rcases ha with ha | ha
  · have hstanding : y.awaitedCall? = x.awaitedCall? := by rw [awaitedCall?, awaitedCall?, ha, hc]
    show y.awaitedCall?.map Call.request = some request
    rw [hstanding]
    exact h (by rw [standing, ← ha]; exact hw)
  · rw [standing, ha] at hw
    cases hw

/-- Answers, and demands for them, give no other call to wait for. -/
theorem Waits.step (service : Service) (h : x.Waits request) {act : Act}
    (hs : submits [act] = 0) : (x.step service act).Waits request := by
  cases act with
  | submit form => cases hs
  | answer n =>
    rw [Exchange.step]
    split
    · exact h
    · rw [Waits, standing_answer]
      exact h
  | poll =>
    rw [Exchange.step, poll_eq]
    exact h.of_awaited (x.dispatcher.awaited_foldl_consume x.mailbox) rfl
  | next =>
    rw [Exchange.step, next]
    split
    · exact h
    · split
      · exact h
      · exact h.of_awaited (x.dispatcher.awaited_consume _) rfl

end Exchange
end ResidualForm
