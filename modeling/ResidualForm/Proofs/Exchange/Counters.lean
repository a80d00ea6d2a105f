import ResidualForm.Proofs.Exchange.Currency
import ResidualForm.Proofs.Exchange.Outgoing
import ResidualForm.Proofs.Exchange.Outstanding

/-!
# ResidualForm.Proofs.Exchange.Counters

The two counters of a dispatcher over every run: the calls issued, and the calls in flight.

* `issued_run`     — what a form makes of itself is counted when it is submitted, and never again.
* `intake_counted` — each answer taken in is counted once, and there was a call to be counted.
* `calls_accounted` — hence the books balance in every state, and no one waits for an answer that
  cannot come.
-/

namespace ResidualForm

def Evaluation.isIssued : Evaluation → Bool
  | .issued _ => true
  | _ => false

namespace History

/-- An answer is taken in where there is a call in flight, and counts it off. -/
theorem intake_counted (service : Service) {t : Ticket} {past : History} (hs : Sound past)
    (ht : t ∈ calls past) (hn : t ∉ received past) :
    (intake service (t, past)).after.inFlight + 1 =
      (intake service (t, past)).dispatcher.inFlight := by
  have hne : (intake service (t, past)).dispatcher.inFlight ≠ 0 := hs.inFlight_ne_zero service ht hn
  rw [Intake.after, Dispatcher.inFlight_consume]
  omega

end History

namespace Exchange

/-- What an act finds out about a form. -/
def evaluated (x : Exchange) : Act → List Evaluation
  | .submit form => [(x.submit form.readiness).2]
  | _ => []

/-- The evaluations of a run, in their order. -/
def evaluations (service : Service) (x : Exchange) : List Act → List Evaluation
  | [] => []
  | act :: acts => x.evaluated act ++ evaluations service (x.step service act) acts

theorem issued_step (service : Service) (x : Exchange) (act : Act) :
    (x.step service act).dispatcher.issued =
      x.dispatcher.issued + (x.evaluated act).countP Evaluation.isIssued := by
  cases act with
  | submit form =>
    rw [step, evaluated, submit]
    cases form.readiness <;> rfl
  | _ => exact congrArg Outgoing.issued (x.outgoing_step service rfl)

theorem issued_run (service : Service) (x : Exchange) (acts : List Act) :
    (x.run service acts).dispatcher.issued =
      x.dispatcher.issued + (evaluations service x acts).countP Evaluation.isIssued := by
  induction acts generalizing x with
  | nil => rfl
  | cons act acts ih =>
    rw [run_cons, ih, issued_step, evaluations, List.countP_append, Nat.add_assoc]

theorem outstanding_eq_nil_iff {x : Exchange} :
    x.outstanding = [] ↔ (∀ posted ∈ x.calls, posted.answered = true) ∧ x.mailbox = [] := by
  simp [outstanding]

/-- Nothing in flight, and no waiting; in flight but not there yet, and waiting. -/
theorem next_snd_eq_idle_iff {x : Exchange} : x.next.2 = .idle ↔ x.dispatcher.inFlight = 0 := by
  rw [next]
  split
  · simp [*]
  · split <;> simp [*]

theorem next_snd_eq_waiting_iff {x : Exchange} :
    x.next.2 = .waiting ↔ x.dispatcher.inFlight ≠ 0 ∧ x.mailbox = [] := by
  rw [next]
  split
  · simp [*]
  · split <;> simp [*]

/-- Where the count is right, `next` waits just if a call has no answer yet. -/
theorem waiting_iff_of_counted {x : Exchange}
    (hflight : x.dispatcher.inFlight = x.outstanding.length) :
    x.next.2 = .waiting ↔ x.mailbox = [] ∧ ∃ posted ∈ x.calls, posted.answered = false := by
  rw [next_snd_eq_waiting_iff, hflight, Ne, List.length_eq_zero_iff, outstanding_eq_nil_iff]
  constructor
  · rintro ⟨hopen, hm⟩
    refine ⟨hm, ?_⟩
    simpa [hm] using hopen
  · rintro ⟨hm, posted, hposted, hanswered⟩
    refine ⟨fun hall => ?_, hm⟩
    rw [hall.1 posted hposted] at hanswered
    cases hanswered

open History

/-- The call that is waited for is the one outstanding call of the latest revision. -/
theorem awaited_exchange (service : Service) {j : Journal} (hs : j.Sound)
    (hb : edits j.history ≤ Revision.greatest.number) {r : Revision}
    (ha : (j.exchange service).dispatcher.awaited = some r) :
    r = (j.exchange service).dispatcher.revision ∧
      (∃ call, (j.exchange service).outstanding.filter (fun call => call.revision = r) = [call]) ∧
      1 ≤ (j.exchange service).dispatcher.inFlight := by
  obtain ⟨request, hw, rfl⟩ := Option.map_eq_some_iff.1 ha
  obtain ⟨t, ht, hn, hc, -⟩ := exists_wanted hw
  refine ⟨rfl, ⟨t.call, ?_⟩, ?_⟩
  · rw [Journal.outstanding_exchange]
    exact hs.outstanding_current hb ht hn hc
  · exact Nat.one_le_iff_ne_zero.2 (hs.history.inFlight_ne_zero service ht hn)

/-- What is in flight and what was taken in are all calls. -/
theorem inFlight_add_received (service : Service) {j : Journal} (hs : j.Sound) :
    (j.exchange service).dispatcher.inFlight + (received j.history).length =
      (j.exchange service).dispatcher.issued :=
  Nat.sub_add_cancel hs.history.length_received_le

theorem length_intakes (service : Service) {acts : List Act}
    (hb : submits acts ≤ Revision.greatest.number) :
    (intakes service {} acts).length = (received (Journal.run {} acts).history).length := by
  rw [intakes_eq_map service hb, List.length_map, ← List.length_map (f := Prod.fst),
    map_fst_receipts, List.length_reverse]

/-- The counters of the dispatcher, in every state that an exchange can reach: as many calls were
issued as forms were found ready, and in flight are those of them whose answers have not been taken
in. So the count never falls below zero, nobody waits for an answer unless a call is open, and with
all answers taken in nothing is in flight and nothing waited for. -/
theorem calls_accounted (service : Service) (acts : List Act)
    (hb : submits acts ≤ Revision.greatest.number) :
    let x := run service {} acts
    let d := x.dispatcher
    d.issued = (evaluations service {} acts).countP Evaluation.isIssued ∧
      d.issued = x.calls.length ∧
      d.inFlight = x.outstanding.length ∧
      d.inFlight + (intakes service {} acts).length = d.issued ∧
      (∀ i ∈ intakes service {} acts, i.after.inFlight + 1 = i.dispatcher.inFlight) ∧
      (x.next.2 = .idle ↔ x.outstanding = []) ∧
      (x.next.2 = .waiting ↔ x.mailbox = [] ∧ ∃ posted ∈ x.calls, posted.answered = false) ∧
      (∀ r, d.awaited = some r →
        r = d.revision ∧ (∃ call, x.outstanding.filter (fun call => call.revision = r) = [call]) ∧
          1 ≤ d.inFlight) ∧
      ((∀ posted ∈ x.calls, posted.answered = true) → x.mailbox = [] →
        d.inFlight = 0 ∧ d.awaited = none) := by
  intro x d
  have hs := Journal.sound_empty.run acts
  have hbound := Journal.edits_le_greatest hb
  have hx : x = (Journal.run {} acts).exchange service := run_eq_exchange service hb
  have hflight : d.inFlight = x.outstanding.length := by
    show x.dispatcher.inFlight = _
    rw [hx]
    exact hs.inFlight_exchange service
  have hawaited : ∀ r, d.awaited = some r →
      r = d.revision ∧ (∃ call, x.outstanding.filter (fun call => call.revision = r) = [call]) ∧
        1 ≤ d.inFlight := by
    show ∀ r, x.dispatcher.awaited = some r → r = x.dispatcher.revision ∧ _ ∧ 1 ≤ x.dispatcher.inFlight
    rw [hx]
    exact fun r ha => awaited_exchange service hs hbound ha
  have hidle : x.next.2 = .idle ↔ x.outstanding = [] := by
    rw [next_snd_eq_idle_iff]
    show d.inFlight = 0 ↔ _
    rw [hflight, List.length_eq_zero_iff]
  refine ⟨?_, ?_, hflight, ?_, ?_, hidle, waiting_iff_of_counted hflight, hawaited, ?_⟩
  · have hissued := issued_run service {} acts
    rwa [Nat.zero_add] at hissued
  · show x.dispatcher.issued = x.calls.length
    rw [hx]
    exact (List.length_map _).symm
  · show x.dispatcher.inFlight + _ = x.dispatcher.issued
    rw [length_intakes service hb, hx]
    exact inFlight_add_received service hs
  · intro i hmem
    rw [intakes_eq_map service hb] at hmem
    obtain ⟨⟨t, past⟩, hr, rfl⟩ := List.mem_map.1 hmem
    obtain ⟨hsound, ht, hn, -⟩ := hs.history.of_receipts hr
    exact intake_counted service hsound ht hn
  · intro hall hm
    have hzero : d.inFlight = 0 := by
      rw [hflight, outstanding_eq_nil_iff.2 ⟨hall, hm⟩, List.length_nil]
    refine ⟨hzero, ?_⟩
    cases ha : d.awaited with
    | none => rfl
    | some r =>
      have := (hawaited r ha).2.2
      omega

/-- Between two calls the form is held for a while; the answer to the first call comes too late. -/
def heldBetween : List Act :=
  [.submit (.ofTexts "01" "11" "0"), .submit (.ofTexts "01" "1" "0"),
    .submit (.ofTexts "01" "10" "0"), .answer 0, .next]

/-- Two of three forms made a call, and `next` now waits for the answer to the second one. -/
theorem calls_accounted_held_between :
    let x := run (fun _ => Request.reconstruct) {} heldBetween
    submits heldBetween ≤ Revision.greatest.number ∧
      x.dispatcher.issued = 2 ∧ x.dispatcher.inFlight = 1 ∧ x.next.2 = .waiting ∧
      x.dispatcher.awaited = some x.dispatcher.revision ∧
      ∃ call, x.outstanding.filter (fun call => call.revision = x.dispatcher.revision) = [call] := by
  intro x
  have hb : submits heldBetween ≤ Revision.greatest.number := by decide
  have ha : x.dispatcher.awaited = some x.dispatcher.revision := by decide +kernel
  obtain ⟨hissued, -, hflight, -, -, -, hwaiting, hawaited, -⟩ :=
    calls_accounted (fun _ => Request.reconstruct) heldBetween hb
  exact ⟨hb, hissued.trans (by decide +kernel), hflight.trans (by decide +kernel),
    hwaiting.2 (by decide +kernel), ha, (hawaited _ ha).2.1⟩

end Exchange
end ResidualForm
