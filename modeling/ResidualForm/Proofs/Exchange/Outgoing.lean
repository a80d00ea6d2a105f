import ResidualForm.Proofs.Exchange.Journal

/-!
# ResidualForm.Proofs.Exchange.Outgoing

What goes out of an exchange: the revisions begun, and the requests made under them. It follows from
the verdicts on the forms alone.

* `outgoing_submit`, `evaluation_submit` — what a changed form adds to it.
* `outgoing_step` — answers, and demands for them, add nothing.
* `Outgoing.Counted` — hence as many calls as revisions at most.
-/

namespace ResidualForm

/-- What has gone out of an exchange. -/
structure Outgoing where
  revision : Revision := .first
  issued : Nat := 0
  requests : List Request := []
  deriving DecidableEq, Repr

namespace Outgoing

/-- A form of this verdict begins a revision, and makes its request if it is ready. -/
def submit (o : Outgoing) (readiness : Readiness) : Outgoing :=
  { revision := o.revision.next
    issued := o.issued + readiness.request?.toList.length
    requests := o.requests ++ readiness.request?.toList }

/-- What is reported of a form of this verdict. -/
def evaluate (o : Outgoing) : Readiness → Evaluation
  | .incomplete => .reset
  | .hold reason => .held reason
  | .ready request => .issued { revision := o.revision.next, request }

/-- There is room for the count of the calls as long as there are revisions left. -/
def Counted (o : Outgoing) : Prop :=
  o.revision.number < Revision.greatest.number → o.issued ≤ o.revision.number

theorem Counted.submit {o : Outgoing} (h : o.Counted) (readiness : Readiness) :
    (o.submit readiness).Counted := by
  intro hlt
  have hone : readiness.request?.toList.length ≤ 1 := by
    cases readiness.request? <;> simp
  rcases Nat.lt_or_ge o.revision.number Revision.greatest.number with hroom | hlast
  · have hissued := h hroom
    have hnext := Revision.number_next hroom
    simp only [Outgoing.submit] at hlt ⊢
    omega
  · have hnext := Revision.number_next_of_le hlast
    simp only [Outgoing.submit] at hlt
    omega

end Outgoing

namespace Exchange

def outgoing (x : Exchange) : Outgoing :=
  { revision := x.dispatcher.revision, issued := x.dispatcher.issued, requests := x.requests }

theorem outgoing_submit (x : Exchange) (readiness : Readiness) :
    (x.submit readiness).1.outgoing = x.outgoing.submit readiness := by
  cases readiness <;>
    simp [submit, Dispatcher.formChanged, outgoing, Outgoing.submit, requests, Readiness.request?]

theorem evaluation_submit (x : Exchange) (readiness : Readiness) :
    (x.submit readiness).2 = x.outgoing.evaluate readiness := by
  cases readiness <;> rfl

/-- A call keeps its request and its revision when it is marked as answered. -/
theorem map_call_answer (x : Exchange) (n : Nat) (a : Answer) :
    (x.answer n a).1.calls.map Posted.call = x.calls.map Posted.call := by
  rw [answer]
  split
  · rfl
  · rename_i posted hposted
    split
    · rfl
    · obtain ⟨hlt, rfl⟩ := List.getElem?_eq_some_iff.1 hposted
      have hn : n < (x.calls.map Posted.call).length := by simpa using hlt
      have hget : (x.calls.map Posted.call)[n] = x.calls[n].call := List.getElem_map _
      rw [List.map_set, ← hget]
      exact List.set_getElem_self hn

theorem requests_eq (x : Exchange) : x.requests = (x.calls.map Posted.call).map Call.request := by
  rw [requests, List.map_map]
  rfl

theorem outgoing_answer (x : Exchange) (n : Nat) (a : Answer) :
    (x.answer n a).1.outgoing = x.outgoing := by
  rw [outgoing, requests_eq, dispatcher_answer, map_call_answer, ← requests_eq]
  rfl

theorem outgoing_poll (x : Exchange) : x.poll.1.outgoing = x.outgoing := by
  rw [poll_eq]
  simp only [outgoing, Dispatcher.foldl_consume Dispatcher.revision_consume,
    Dispatcher.foldl_consume Dispatcher.issued_consume]
  rfl

theorem outgoing_next (x : Exchange) : x.next.1.outgoing = x.outgoing := by
  rw [next]
  split
  · rfl
  · split
    · rfl
    · simp only [outgoing, Dispatcher.revision_consume, Dispatcher.issued_consume]
      rfl

theorem outgoing_step (service : Service) (x : Exchange) {act : Act} (hs : submits [act] = 0) :
    (x.step service act).outgoing = x.outgoing := by
  cases act with
  | submit form => cases hs
  | answer n =>
    rw [step]
    split
    · rfl
    · exact x.outgoing_answer _ _
  | poll => exact x.outgoing_poll
  | next => exact x.outgoing_next

end Exchange
end ResidualForm
