import ResidualForm.Proofs.Exchange.Marks

/-!
# ResidualForm.Proofs.Exchange.Refinement

An exchange is what the journal of its run makes of it: as long as the edits do not outnumber the
revisions, the whole state, down to the order of the mailbox, is a function of the journal
(`Journal.exchange`), and no revision is needed to tell it.

* `consume_dispatcher` — what a dispatcher does with an answer depends on the history alone.
* `step_exchange`, `run_exchange` — one act, and a whole run, from the state a sound journal tells.
-/

namespace ResidualForm

namespace Ticket

def call (t : Ticket) : Call :=
  { revision := .ofNumber t.edit, request := t.request }

def completion (service : Service) (t : Ticket) : Completion :=
  { call := t.call, answer := service t.number t.request }

end Ticket

namespace History

/-- The dispatcher as the history tells it. -/
def dispatcher (service : Service) (h : History) : Dispatcher :=
  { revision := .ofNumber (edits h)
    awaited := (wanted h).map fun _ => .ofNumber (edits h)
    result := shown service h
    inFlight := (calls h).length - (received h).length
    issued := (calls h).length }

theorem wanted_edited (form : Form) {past : History} (hs : Sound past) :
    wanted (.edited form :: past) = form.readiness.request? := by
  have : ¬ ∃ t ∈ received past, Current (.edited form :: past) t := by
    rintro ⟨t, ht, hc⟩
    exact not_current_edited (hs.mem_calls ht) hc
  rw [wanted, received, if_neg this, latest]

theorem wanted_of_current {h : History} {t : Ticket} (hs : Sound h) (ht : t ∈ calls h)
    (hn : t ∉ received h) (hc : Current h t) : wanted h = some t.request := by
  have : ¬ ∃ u ∈ received h, Current h u := by
    rintro ⟨u, hu, huc⟩
    have : u = t := eq_of_edit_eq (hs.mem_calls hu) ht (huc.trans hc.symm)
    exact hn (this ▸ hu)
  rw [wanted, if_neg this, latest_of_current ht hc, Readiness.request?]

theorem wanted_received_current {past : History} {t : Ticket} (hc : Current past t) :
    wanted (.received t :: past) = none := by
  rw [wanted, if_pos ⟨t, List.mem_cons_self, hc⟩]

theorem wanted_received_superseded {past : History} {t : Ticket} (hc : ¬ Current past t) :
    wanted (.received t :: past) = wanted past := by
  have : (∃ u ∈ received (.received t :: past), Current (.received t :: past) u) ↔
      ∃ u ∈ received past, Current past u := by
    constructor
    · rintro ⟨u, hu, huc⟩
      rcases List.mem_cons.1 hu with rfl | hu
      · exact absurd huc hc
      · exact ⟨u, hu, huc⟩
    · rintro ⟨u, hu, huc⟩
      exact ⟨u, List.mem_cons_of_mem _ hu, huc⟩
  simp only [wanted, this, latest]

/-- The dispatcher tells a current answer from any other. -/
theorem awaited_eq_iff (service : Service) {h : History} {t : Ticket}
    (hb : edits h ≤ Revision.greatest.number) (hs : Sound h) (ht : t ∈ calls h)
    (hn : t ∉ received h) :
    (dispatcher service h).awaited = some t.call.revision ↔ Current h t := by
  constructor
  · intro ha
    obtain ⟨_, -, ha⟩ := Option.map_eq_some_iff.1 ha
    have := edit_le_edits ht
    exact ((Revision.ofNumber_inj hb (by omega)).1 ha).symm
  · intro hc
    show (wanted h).map _ = _
    rw [wanted_of_current hs ht hn hc, Option.map_some, ← hc]
    rfl

/-- Taking an answer in: a current one is applied, any other leaves all but the count of the calls
in flight as it is. -/
theorem consume_dispatcher (service : Service) {h : History} {t : Ticket}
    (hb : edits h ≤ Revision.greatest.number) (hs : Sound h) (ht : t ∈ calls h)
    (hn : t ∉ received h) :
    (dispatcher service h).consume (t.completion service) =
      (dispatcher service (.received t :: h), if Current h t then .applied else .superseded) := by
  have hflight : (dispatcher service h).inFlight - 1 =
      (dispatcher service (.received t :: h)).inFlight :=
    Nat.sub_sub _ _ 1
  by_cases hc : Current h t
  · have ha := (awaited_eq_iff service hb hs ht hn).2 hc
    rw [if_pos hc]
    cases hr : service t.number t.request with
    | function digits =>
      rw [Dispatcher.consume_function ha hr, hflight]
      simp [dispatcher, edits, calls, wanted_received_current hc, shown_function hc hr]
    | failure reason =>
      rw [Dispatcher.consume_failure ha hr, hflight]
      simp [dispatcher, edits, calls, wanted_received_current hc, shown_failure hc hr]
  · have ha := mt (awaited_eq_iff service hb hs ht hn).1 hc
    rw [if_neg hc, Dispatcher.consume_superseded ha, hflight]
    simp [dispatcher, edits, calls, wanted_received_superseded hc, shown_superseded hc]

/-- A changed form: the verdict on it is all that the dispatcher is told. -/
theorem formChanged_dispatcher (service : Service) {past : History} (hs : Sound past) (form : Form) :
    (dispatcher service past).formChanged form.readiness =
      (dispatcher service (.edited form :: past),
        match form.readiness with
        | .incomplete => .reset
        | .hold reason => .held reason
        | .ready request => .issued { revision := .ofNumber (edits past + 1), request }) := by
  have hflight := hs.length_received_le
  have hw := wanted_edited form hs
  cases hr : form.readiness with
  | incomplete =>
    have he := form.readiness_eq_incomplete_iff.1 hr
    simp [Dispatcher.formChanged, dispatcher, hw, hr, Readiness.request?, edits, calls, received,
      shown_emptied he]
  | hold reason =>
    have he : form.someEmpty = false := by
      simp [← Bool.not_eq_true, ← form.readiness_eq_incomplete_iff, hr]
    simp [Dispatcher.formChanged, dispatcher, hw, hr, Readiness.request?, edits, calls, received,
      shown_filled he]
  | ready request =>
    have he : form.someEmpty = false := by
      simp [← Bool.not_eq_true, ← form.readiness_eq_incomplete_iff, hr]
    simp [Dispatcher.formChanged, dispatcher, hw, hr, Readiness.request?, edits, calls, received,
      shown_filled he]
    omega

/-- A call is in flight until its answer is taken in. -/
theorem Sound.inFlight_ne_zero (service : Service) {h : History} (hs : Sound h) {t : Ticket}
    (ht : t ∈ calls h) (hn : t ∉ received h) : (dispatcher service h).inFlight ≠ 0 := by
  have hnodup : (t :: received h).Nodup := List.nodup_cons.2 ⟨hn, hs.received_nodup⟩
  have hsub : t :: received h ⊆ calls h := by
    intro u hu
    rcases List.mem_cons.1 hu with rfl | hu
    · exact ht
    · exact hs.mem_calls hu
  have := hnodup.length_le_of_subset hsub
  simp only [List.length_cons] at this
  simp only [dispatcher]
  omega

end History

namespace Journal

open History

/-- A call as the exchange keeps it. -/
def posted (j : Journal) (t : Ticket) : Posted :=
  { call := t.call, answered := decide (t ∈ j.waiting ∨ t ∈ received j.history) }

/-- The exchange as the journal tells it. -/
def exchange (service : Service) (j : Journal) : Exchange :=
  { dispatcher := dispatcher service j.history
    calls := (calls j.history).map j.posted
    mailbox := j.waiting.map (Ticket.completion service) }

theorem mailbox_of_nil (service : Service) {j : Journal} (hw : j.waiting = []) :
    (j.exchange service).mailbox = [] := by
  simp [exchange, hw]

theorem mailbox_of_cons (service : Service) {j : Journal} {t : Ticket} {rest : List Ticket}
    (hw : j.waiting = t :: rest) :
    (j.exchange service).mailbox =
      t.completion service :: rest.map (Ticket.completion service) := by
  simp [exchange, hw]

@[simp] theorem posted_edited (form : Form) (history : History) (waiting : List Ticket) :
    posted { history := .edited form :: history, waiting } = posted { history, waiting } := rfl

theorem posted_new {j : Journal} (hs : j.Sound) (request : Request) :
    j.posted ⟨(calls j.history).length, edits j.history + 1, request⟩ =
      { call := ⟨.ofNumber (edits j.history + 1), request⟩ } := by
  have hcalls : (⟨(calls j.history).length, edits j.history + 1, request⟩ : Ticket) ∉
      calls j.history :=
    fun ht => Nat.not_succ_le_self _ (edit_le_edits ht)
  have hwaiting := mt (hs.issued _) hcalls
  have hreceived := mt hs.history.mem_calls hcalls
  simp [posted, Ticket.call, hwaiting, hreceived]

theorem submit_exchange (service : Service) {j : Journal} (hs : j.Sound) (form : Form) :
    ((j.exchange service).submit form.readiness).1 = (j.step (.submit form)).exchange service := by
  have hf := formChanged_dispatcher service hs.history form
  have hnew := posted_new hs
  obtain ⟨history, waiting⟩ := j
  cases hr : form.readiness <;> rw [hr] at hf <;>
    simp [Exchange.submit, exchange, hf, step, calls, hr, Readiness.request?, hnew]

theorem getElem?_exchange_calls (service : Service) (j : Journal) (n : Nat) :
    (j.exchange service).calls[n]? = ((calls j.history)[n]?).map j.posted :=
  List.getElem?_map

theorem map_posted_answer {j : Journal} {n : Nat} {t : Ticket}
    (ht : (calls j.history)[n]? = some t) :
    ((calls j.history).map j.posted).set n { j.posted t with answered := true } =
      (calls j.history).map { j with waiting := j.waiting ++ [t] }.posted := by
  apply List.ext_getElem?
  intro m
  by_cases hm : n = m
  · subst hm
    obtain ⟨hlt, rfl⟩ := List.getElem?_eq_some_iff.1 ht
    simp [hlt, posted]
  · rw [List.getElem?_set_ne hm, List.getElem?_map, List.getElem?_map]
    cases hu : (calls j.history)[m]? with
    | none => rfl
    | some u =>
      -- calls are told apart by their numbers, so no other call gets this answer
      have hut : u ≠ t := by
        rintro rfl
        exact hm ((number_eq ht).symm.trans (number_eq hu))
      simp [posted, hut]

theorem answer_exchange (service : Service) (j : Journal) (n : Nat) :
    (j.exchange service).step service (.answer n) = (j.step (.answer n)).exchange service := by
  rw [Exchange.step, step, getElem?_exchange_calls]
  cases ht : (calls j.history)[n]? with
  | none => rfl
  | some t =>
    simp only [Option.map_some]
    have hx : (j.exchange service).calls[n]? = some (j.posted t) := by
      rw [getElem?_exchange_calls, ht, Option.map_some]
    by_cases harr : t ∈ j.waiting ∨ t ∈ received j.history
    · have hp : (j.posted t).answered = true := decide_eq_true harr
      simp [Exchange.answer, hx, hp, harr]
    · have hp : (j.posted t).answered = false := decide_eq_false harr
      have hset := map_posted_answer ht
      simp only [Exchange.answer, hx, hp, if_neg harr]
      simp only [Bool.false_eq_true, if_false, exchange, hset, List.map_append, List.map_singleton]
      rw [← number_eq ht]
      rfl

/-- Whose answer is there does not depend on whether it was taken in. -/
theorem posted_receive (j : Journal) : j.receive.posted = j.posted := by
  obtain ⟨history, waiting⟩ := j
  cases waiting with
  | nil => rfl
  | cons t rest =>
    funext u
    simp [posted, receive, received, or_assoc, or_left_comm]

theorem receive_exchange (service : Service) {j : Journal} (hs : j.Sound)
    (hb : edits j.history ≤ Revision.greatest.number) {t : Ticket} {rest : List Ticket}
    (hw : j.waiting = t :: rest) :
    j.receive.exchange service =
      { j.exchange service with
        dispatcher := ((j.exchange service).dispatcher.consume (t.completion service)).1
        mailbox := rest.map (Ticket.completion service) } := by
  have ht : t ∈ j.waiting := by rw [hw]; exact List.mem_cons_self
  have hc := consume_dispatcher service hb hs.history (hs.issued t ht) (hs.fresh t ht)
  have hposted := posted_receive j
  have hr : j.receive = { history := .received t :: j.history, waiting := rest } := by
    rw [receive, hw]
  simp only [exchange, hc, hposted]
  simp only [hr, calls]

@[simp] theorem edits_receive (j : Journal) : edits j.receive.history = edits j.history := by
  obtain ⟨history, waiting⟩ := j
  cases waiting <;> rfl

theorem poll_exchange (service : Service) {j : Journal} (hs : j.Sound)
    (hb : edits j.history ≤ Revision.greatest.number) :
    (j.exchange service).poll.1 = (j.step .poll).exchange service := by
  -- the oldest answer goes first, and leaves a sound journal with a shorter mailbox
  induction hw : j.waiting generalizing j with
  | nil =>
    have hm := mailbox_of_nil service hw
    have hj : j.step .poll = j := by
      obtain ⟨history, waiting⟩ := j
      subst hw
      rfl
    rw [Exchange.poll_of_empty hm, hj]
  | cons t rest ih =>
    have hr : j.receive.waiting = rest := by rw [receive, hw]
    have hm := mailbox_of_cons service hw
    rw [← step_poll_receive, ← ih hs.receive (by rwa [edits_receive]) hr,
      receive_exchange service hs hb hw, Exchange.poll_of_cons hm]

theorem next_exchange (service : Service) {j : Journal} (hs : j.Sound)
    (hb : edits j.history ≤ Revision.greatest.number) :
    (j.exchange service).next.1 = j.receive.exchange service := by
  cases hw : j.waiting with
  | nil =>
    have hr : j.receive = j := by rw [receive, hw]
    have hm := mailbox_of_nil service hw
    rw [hr, Exchange.next_eq]
    simp [Exchange.taken, hm, Dispatcher.intakes]
  | cons t rest =>
    have hm := mailbox_of_cons service hw
    have ht : t ∈ j.waiting := by rw [hw]; exact List.mem_cons_self
    have hne : (j.exchange service).dispatcher.inFlight ≠ 0 :=
      hs.history.inFlight_ne_zero service (hs.issued t ht) (hs.fresh t ht)
    rw [receive_exchange service hs hb hw, Exchange.next_eq]
    simp [Exchange.taken, hm, hne, Dispatcher.intakes, Intake.after]

theorem step_exchange (service : Service) {j : Journal} (hs : j.Sound)
    (hb : edits j.history ≤ Revision.greatest.number) (act : Exchange.Act) :
    (j.exchange service).step service act = (j.step act).exchange service := by
  cases act with
  | submit form => exact submit_exchange service hs form
  | answer n => exact answer_exchange service j n
  | poll => exact poll_exchange service hs hb
  | next => exact next_exchange service hs hb

/-- What the edits alone decide of a history is left as it is by all other acts. -/
theorem step_of_no_submit {α : Type} {f : History → α}
    (hf : ∀ t past, f (.received t :: past) = f past) (j : Journal) {act : Exchange.Act}
    (hs : Exchange.submits [act] = 0) : f (j.step act).history = f j.history := by
  cases act with
  | submit form => cases hs
  | answer n =>
    rw [step]
    split
    · rfl
    · split <;> rfl
  | poll =>
    obtain ⟨history, waiting⟩ := j
    induction waiting generalizing history with
    | nil => rfl
    | cons t rest ih => exact (ih (.received t :: history)).trans (hf t history)
  | next =>
    obtain ⟨history, waiting⟩ := j
    cases waiting with
    | nil => rfl
    | cons t rest => exact hf t history

theorem edits_step (j : Journal) (act : Exchange.Act) :
    edits (j.step act).history = edits j.history + Exchange.submits [act] := by
  cases act with
  | submit form => rfl
  | answer n => exact step_of_no_submit (fun _ _ => rfl) j rfl
  | poll => exact step_of_no_submit (fun _ _ => rfl) j rfl
  | next => exact step_of_no_submit (fun _ _ => rfl) j rfl

theorem latest_step (j : Journal) {act : Exchange.Act} (hs : Exchange.submits [act] = 0) :
    latest (j.step act).history = latest j.history :=
  step_of_no_submit (fun _ _ => rfl) j hs

theorem edits_run (j : Journal) (acts : List Exchange.Act) :
    edits (j.run acts).history = edits j.history + Exchange.submits acts := by
  induction acts generalizing j with
  | nil => rfl
  | cons act acts ih => rw [run_cons, ih, edits_step, Exchange.submits_cons act acts, Nat.add_assoc]

theorem run_exchange (service : Service) {j : Journal} (hs : j.Sound) {acts : List Exchange.Act}
    (hb : edits j.history + Exchange.submits acts ≤ Revision.greatest.number) :
    (j.exchange service).run service acts = (j.run acts).exchange service := by
  induction acts generalizing j with
  | nil => rfl
  | cons act acts ih =>
    have hcons := edits_run j (act :: acts)
    rw [run_cons, edits_run, edits_step] at hcons
    rw [Exchange.run_cons, run_cons, step_exchange service hs (by omega), ih (hs.step act)]
    rw [edits_step]
    omega

end Journal

theorem Journal.edits_le_greatest {acts : List Exchange.Act}
    (hb : Exchange.submits acts ≤ Revision.greatest.number) :
    History.edits (Journal.run {} acts).history ≤ Revision.greatest.number := by
  rw [Journal.edits_run]
  simpa [History.edits] using hb

theorem Exchange.run_eq_exchange (service : Service) {acts : List Exchange.Act}
    (hb : Exchange.submits acts ≤ Revision.greatest.number) :
    Exchange.run service {} acts = (Journal.run {} acts).exchange service := by
  have hb' : History.edits (Journal.history {}) + Exchange.submits acts ≤
      Revision.greatest.number := by
    rwa [show History.edits (Journal.history {}) = 0 from rfl, Nat.zero_add]
  exact Journal.run_exchange service Journal.sound_empty hb'

end ResidualForm
