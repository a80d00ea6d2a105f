import ResidualForm.Proofs.Exchange.Currency
import ResidualForm.Proofs.Exchange.Outstanding

/-!
# ResidualForm.Proofs.Exchange.ArrivalOrder

Answers in another order, and taken in at other times. As long as the form does not change, what has
been answered decides the state, and not when or how it came in.

* `History.receiving` — a history and answers taken in after it, from which all that the dispatcher is
  told depends on which they are, not on their order (`dispatcher_receiving_congr`).
* `applied_exchange`  — of these answers those of the latest edit are applied, whether they are taken
  in by `poll` or by `next`.
* `arrival_order_irrelevant` — two ways for the same answers to arrive.
-/

namespace ResidualForm

namespace History

/-- The history once the answers to these calls are taken in, the last of them first. -/
def receiving (h : History) (ts : List Ticket) : History :=
  ts.map .received ++ h

/-- What the edits alone decide is the same after the answers. -/
theorem eq_of_receiving {α : Type} {f : History → α} (hf : ∀ t past, f (.received t :: past) = f past)
    (h : History) (ts : List Ticket) : f (h.receiving ts) = f h := by
  induction ts with
  | nil => rfl
  | cons t ts ih => exact (hf t _).trans ih

@[simp] theorem edits_receiving (h : History) (ts : List Ticket) : edits (h.receiving ts) = edits h :=
  eq_of_receiving (fun _ _ => rfl) h ts

@[simp] theorem calls_receiving (h : History) (ts : List Ticket) : calls (h.receiving ts) = calls h :=
  eq_of_receiving (fun _ _ => rfl) h ts

@[simp] theorem latest_receiving (h : History) (ts : List Ticket) : latest (h.receiving ts) = latest h :=
  eq_of_receiving (fun _ _ => rfl) h ts

@[simp] theorem current_receiving {h : History} {ts : List Ticket} {t : Ticket} :
    Current (h.receiving ts) t ↔ Current h t := by
  rw [Current, Current, edits_receiving]

@[simp] theorem received_receiving (h : History) (ts : List Ticket) :
    received (h.receiving ts) = ts ++ received h := by
  induction ts with
  | nil => rfl
  | cons t ts ih => exact congrArg (t :: ·) ih

theorem receiving_receiving (h : History) (ts us : List Ticket) :
    (h.receiving ts).receiving us = h.receiving (us ++ ts) := by
  simp [receiving]

variable {h : History} {ts ts' : List Ticket}

theorem Sound.of_receiving (hs : Sound (h.receiving ts)) :
    ts.Nodup ∧ ∀ t ∈ ts, t ∈ calls h ∧ t ∉ received h := by
  have hnodup := hs.received_nodup
  rw [received_receiving, List.nodup_append] at hnodup
  refine ⟨hnodup.1, fun t ht => ⟨?_, fun hr => hnodup.2.2 t ht t hr rfl⟩⟩
  have hmem := hs.mem_calls (t := t) (by simp [ht])
  rwa [calls_receiving] at hmem

/-- Only the answer to the call of the latest edit leaves a mark. -/
theorem marks_receiving (service : Service) (h : History) (ts : List Ticket) :
    marks service (h.receiving ts) =
      ((ts.filter fun t => Current h t).map fun t => .answered (service t.number t.request)) ++
        marks service h := by
  induction ts with
  | nil => rfl
  | cons t ts ih =>
    show marks service (.received t :: h.receiving ts) = _
    by_cases hc : Current h t
    · rw [marks, if_pos (current_receiving.2 hc), ih]
      simp [hc]
    · rw [marks, if_neg (mt current_receiving.1 hc), ih]
      simp [hc]

theorem marks_congr {service service' : Service}
    (ha : ∀ t ∈ received h, service t.number t.request = service' t.number t.request) :
    marks service h = marks service' h := by
  induction h with
  | nil => rfl
  | cons entry past ih =>
    cases entry with
    | edited form => rw [marks, marks, ih ha]
    | received t =>
      obtain ⟨ht, hpast⟩ := List.forall_mem_cons.1 ha
      rw [marks, marks, ih hpast, ht]

/-- The latest edit has one call, so one answer at most is the answer to it. -/
theorem filter_current (hs : Sound (h.receiving ts)) {t : Ticket} (ht : t ∈ ts) (hc : Current h t) :
    (ts.filter fun u => Current h u) = [t] := by
  obtain ⟨hnodup, hmem⟩ := hs.of_receiving
  rw [← List.perm_singleton, List.perm_ext_iff_of_nodup (hnodup.filter _) (by simp)]
  intro u
  rw [List.mem_filter, decide_eq_true_eq, List.mem_singleton]
  constructor
  · rintro ⟨hu, huc⟩
    exact eq_of_edit_eq (hmem u hu).1 (hmem t ht).1 (huc.trans hc.symm)
  · rintro rfl
    exact ⟨ht, hc⟩

theorem filter_current_eq_nil (hn : ¬ ∃ t ∈ ts, Current h t) :
    (ts.filter fun u => Current h u) = [] := by
  rw [List.filter_eq_nil_iff]
  intro t ht hc
  exact hn ⟨t, ht, of_decide_eq_true hc⟩

/-- So the order in which they are looked through for it does not matter. -/
theorem filter_current_congr (hs : Sound (h.receiving ts)) (hs' : Sound (h.receiving ts'))
    (hset : ∀ t, t ∈ ts ↔ t ∈ ts') :
    (ts.filter fun t => Current h t) = ts'.filter fun t => Current h t := by
  by_cases hex : ∃ t ∈ ts, Current h t
  · obtain ⟨t, ht, hc⟩ := hex
    rw [filter_current hs ht hc, filter_current hs' ((hset t).1 ht) hc]
  · have hex' : ¬ ∃ t ∈ ts', Current h t := by simpa only [hset] using hex
    rw [filter_current_eq_nil hex, filter_current_eq_nil hex']

theorem countP_current (hs : Sound (h.receiving ts)) :
    (ts.countP fun t => Current h t) = if ∃ t ∈ ts, Current h t then 1 else 0 := by
  rw [List.countP_eq_length_filter]
  split
  · rename_i hex
    obtain ⟨t, ht, hc⟩ := hex
    rw [filter_current hs ht hc, List.length_singleton]
  · rename_i hnone
    rw [filter_current_eq_nil hnone, List.length_nil]

theorem dispatcher_receiving_congr {service service' : Service} (hs : Sound (h.receiving ts))
    (hs' : Sound (h.receiving ts')) (hset : ∀ t, t ∈ ts ↔ t ∈ ts')
    (hpast : ∀ t ∈ received h, service t.number t.request = service' t.number t.request)
    (hcurrent : ∀ t ∈ ts, Current h t →
      service t.number t.request = service' t.number t.request) :
    dispatcher service (h.receiving ts) = dispatcher service' (h.receiving ts') := by
  have hlength : ts.length = ts'.length :=
    ((List.perm_ext_iff_of_nodup hs.of_receiving.1 hs'.of_receiving.1).2 hset).length_eq
  have hanswered : (∃ t ∈ received (h.receiving ts), Current (h.receiving ts) t) ↔
      ∃ t ∈ received (h.receiving ts'), Current (h.receiving ts') t := by
    simp only [received_receiving, current_receiving, List.mem_append, hset]
  have hwanted : wanted (h.receiving ts) = wanted (h.receiving ts') := by
    simp only [wanted, hanswered, latest_receiving]
  have hmarks : marks service (h.receiving ts) = marks service' (h.receiving ts') := by
    rw [marks_receiving, marks_receiving, ← filter_current_congr hs hs' hset, marks_congr hpast]
    congr 1
    apply List.map_congr_left
    intro t ht
    rw [List.mem_filter, decide_eq_true_eq] at ht
    rw [hcurrent t ht.1 ht.2]
  simp only [dispatcher, shown, output, error, hwanted, hmarks, edits_receiving, calls_receiving,
    received_receiving, List.length_append, hlength]

/-- The answers taken in that were those of the latest edit at that time. -/
theorem countP_receipts_receiving (h : History) (ts : List Ticket) :
    ((receipts (h.receiving ts)).countP fun receipt => Current receipt.2 receipt.1) =
      ((receipts h).countP fun receipt => Current receipt.2 receipt.1) +
        ts.countP fun t => Current h t := by
  induction ts with
  | nil => rfl
  | cons t ts ih =>
    show (receipts (.received t :: h.receiving ts)).countP _ = _
    rw [receipts, List.countP_append, ih, List.countP_singleton, List.countP_cons, Nat.add_assoc]
    simp

theorem countP_applied_receipts (service : Service) (hs : Sound h)
    (hb : edits h ≤ Revision.greatest.number) :
    (((receipts h).map (intake service)).countP fun i => i.outcome = .applied) =
      (receipts h).countP fun receipt => Current receipt.2 receipt.1 := by
  rw [List.countP_map]
  apply List.countP_congr
  rintro ⟨t, past⟩ hr
  obtain ⟨hsound, ht, hn, hle⟩ := hs.of_receipts hr
  have hiff := (handled_intake service hsound ht hn (Nat.le_trans hle hb)).applied_iff
  simpa using hiff

end History

namespace Exchange

/-- The number of answers that an act says it has applied. -/
def reported (x : Exchange) : Act → Nat
  | .poll => x.poll.2
  | .next => if x.next.2 = .received .applied then 1 else 0
  | _ => 0

/-- The number of answers that a run says it has applied. -/
def applied (service : Service) (x : Exchange) : List Act → Nat
  | [] => 0
  | act :: acts => x.reported act + applied service (x.step service act) acts

theorem reported_eq (x : Exchange) (act : Act) :
    x.reported act = (x.taken act).countP fun i => i.outcome = .applied := by
  cases act with
  | submit form => rfl
  | answer n => rfl
  | poll => rw [reported, poll_eq]
  | next =>
    rw [reported, next_eq, taken]
    by_cases hf : x.dispatcher.inFlight = 0
    · simp [hf]
    · cases hm : x.mailbox with
      | nil => simp [hf, Dispatcher.intakes]
      | cons c rest => simp [hf, Dispatcher.intakes, List.countP_singleton]

/-- The reports are right. -/
theorem applied_eq (service : Service) (x : Exchange) (acts : List Act) :
    x.applied service acts = (intakes service x acts).countP fun i => i.outcome = .applied := by
  induction acts generalizing x with
  | nil => rfl
  | cons act acts ih => rw [applied, reported_eq, ih, intakes, List.countP_append]

end Exchange

namespace Journal

open History

theorem exists_receiving_step (j : Journal) {act : Exchange.Act} (hn : Exchange.submits [act] = 0) :
    ∃ ts, (j.step act).history = j.history.receiving ts := by
  cases act with
  | submit form => cases hn
  | answer n =>
    refine ⟨[], ?_⟩
    rw [step]
    split
    · rfl
    · split <;> rfl
  | poll => exact ⟨j.waiting.reverse, by simp [step, List.foldl_flip_cons_eq_append, receiving]⟩
  | next =>
    obtain ⟨history, waiting⟩ := j
    cases waiting with
    | nil => exact ⟨[], rfl⟩
    | cons t rest => exact ⟨[t], rfl⟩

/-- As long as the form does not change, nothing is noted but answers. -/
theorem exists_receiving (j : Journal) {acts : List Exchange.Act} (hn : Exchange.submits acts = 0) :
    ∃ ts, (j.run acts).history = j.history.receiving ts := by
  induction acts generalizing j with
  | nil => exact ⟨[], rfl⟩
  | cons act acts ih =>
    rw [Exchange.submits_cons, Nat.add_eq_zero_iff] at hn
    obtain ⟨ts, hstep⟩ := j.exists_receiving_step hn.1
    obtain ⟨us, hrun⟩ := ih (j.step act) hn.2
    exact ⟨us ++ ts, by rw [run_cons, hrun, hstep, receiving_receiving]⟩

variable {j : Journal} {acts : List Exchange.Act} {ts : List Ticket}

/-- Of the answers taken in, those of the latest edit are applied. -/
theorem applied_exchange (service : Service) (hs : j.Sound)
    (hb : edits j.history ≤ Revision.greatest.number) (hn : Exchange.submits acts = 0)
    (hrun : (j.run acts).history = j.history.receiving ts) :
    (j.exchange service).applied service acts = ts.countP fun t => Current j.history t := by
  have hs' := (hs.run acts).history
  have hbound : edits j.history + Exchange.submits acts ≤ Revision.greatest.number := by rwa [hn]
  have hintakes := congrArg (List.countP fun i => i.outcome = .applied)
    (intakes_exchange service hs hbound)
  rw [hrun] at hs' hintakes
  rw [List.countP_append, countP_applied_receipts service hs' (by rwa [edits_receiving]),
    countP_applied_receipts service hs.history hb, countP_receipts_receiving] at hintakes
  rw [Exchange.applied_eq]
  omega

/-- With no answer left in the mailbox, those taken in are those given. -/
theorem mem_receiving_iff (hs : j.Sound) (hrun : (j.run acts).history = j.history.receiving ts)
    (hw : (j.run acts).waiting = []) {t : Ticket} :
    t ∈ ts ↔ t ∈ calls j.history ∧ t ∉ received j.history ∧
      ((j.run acts).posted t).answered = true := by
  have hsound := (hs.run acts).history
  rw [hrun] at hsound
  obtain ⟨-, hmem⟩ := hsound.of_receiving
  have hanswered : ((j.run acts).posted t).answered = true ↔ t ∈ ts ∨ t ∈ received j.history := by
    simp [posted, hw, hrun]
  rw [hanswered]
  constructor
  · intro ht
    exact ⟨(hmem t ht).1, (hmem t ht).2, .inl ht⟩
  · rintro ⟨-, hn, ht | hr⟩
    · exact ht
    · exact absurd hr hn

/-- So they are the same where the same calls count as answered. -/
theorem mem_receiving_congr {service service' : Service} {acts' : List Exchange.Act}
    {ts' : List Ticket} (hs : j.Sound) (hrun : (j.run acts).history = j.history.receiving ts)
    (hw : (j.run acts).waiting = [])
    (hrun' : (j.run acts').history = j.history.receiving ts') (hw' : (j.run acts').waiting = [])
    (hcalls : ((j.run acts).exchange service).calls = ((j.run acts').exchange service').calls)
    {t : Ticket} : t ∈ ts ↔ t ∈ ts' := by
  have hmap : (calls j.history).map (j.run acts).posted =
      (calls j.history).map (j.run acts').posted := by
    simpa only [exchange, hrun, hrun', calls_receiving] using hcalls
  rw [mem_receiving_iff hs hrun hw, mem_receiving_iff hs hrun' hw']
  refine and_congr_right fun ht => ?_
  rw [List.map_inj_left.1 hmap t ht]

/-- The call that is waited for is among those answered, or it is not. -/
theorem exists_current_iff (service : Service) (hs : j.Sound)
    (hb : edits j.history ≤ Revision.greatest.number)
    (hrun : (j.run acts).history = j.history.receiving ts) (hw : (j.run acts).waiting = []) :
    (∃ t ∈ ts, Current j.history t) ↔
      ∃ posted ∈ ((j.run acts).exchange service).calls, posted.answered = true ∧
        (j.exchange service).dispatcher.awaited = some posted.call.revision := by
  have hcalls : calls (j.run acts).history = calls j.history := by rw [hrun, calls_receiving]
  constructor
  · rintro ⟨t, ht, hc⟩
    obtain ⟨hmem, hn, hanswered⟩ := (mem_receiving_iff hs hrun hw).1 ht
    refine ⟨_, List.mem_map_of_mem (hcalls ▸ hmem), hanswered, ?_⟩
    exact (awaited_eq_iff service hb hs.history hmem hn).2 hc
  · rintro ⟨posted, hposted, hanswered, ha⟩
    obtain ⟨t, ht, rfl⟩ := List.mem_map.1 hposted
    rw [hcalls] at ht
    obtain ⟨request, hwanted, hrev⟩ := Option.map_eq_some_iff.1 ha
    obtain ⟨u, hu, hn, hc, -⟩ := exists_wanted hwanted
    -- it is the only call of its revision
    obtain rfl : u = t := eq_of_revision_eq hb hu ht ((congrArg Revision.ofNumber hc).trans hrev)
    exact ⟨u, (mem_receiving_iff hs hrun hw).2 ⟨ht, hn, hanswered⟩, hc⟩

end Journal

namespace Exchange

open History

/-- Two services that give the same answers, but perhaps to calls that are outstanding and not waited
for. -/
def AgreeOnWanted (x : Exchange) (service service' : Service) : Prop :=
  ∀ n, ∀ hn : n < x.calls.length,
    service n x.calls[n].call.request = service' n x.calls[n].call.request ∨
      (x.calls[n].call ∈ x.outstanding ∧ x.dispatcher.awaited ≠ some x.calls[n].call.revision)

instance (x : Exchange) (service service' : Service) : Decidable (x.AgreeOnWanted service service') :=
  inferInstanceAs (Decidable (∀ n, ∀ _ : n < x.calls.length, _ ∨ _))

/-- What the services may differ in has not been taken in yet, and will not be applied. -/
theorem AgreeOnWanted.agree {service service' : Service} {j : Journal} (hs : j.Sound)
    (hb : edits j.history ≤ Revision.greatest.number)
    (ha : (j.exchange service).AgreeOnWanted service service') {t : Ticket}
    (ht : t ∈ History.calls j.history) (hw : t ∈ received j.history ∨ Current j.history t) :
    service t.number t.request = service' t.number t.request := by
  have hget : (j.exchange service).calls[t.number]? = some (j.posted t) := by
    rw [Journal.getElem?_exchange_calls, getElem?_number ht, Option.map_some]
  obtain ⟨hlt, hcall⟩ := List.getElem?_eq_some_iff.1 hget
  have hor := ha t.number hlt
  rw [hcall] at hor
  rcases hor with heq | ⟨hout, hne⟩
  · exact heq
  · rw [Journal.outstanding_exchange] at hout
    obtain ⟨u, hu, hrev⟩ := List.mem_map.1 hout
    obtain ⟨hmem, hn⟩ := hs.mem_outstanding.1 hu
    obtain rfl : u = t := eq_of_revision_eq hb hmem ht (congrArg Call.revision hrev)
    rcases hw with hr | hc
    · exact absurd hr hn
    · exact absurd ((awaited_eq_iff service hb hs.history ht hn).2 hc) hne

/-- The order in which answers arrive does not matter, nor how they are taken in, nor what those say
that nobody waits for. Two runs begin with the same acts, and go on without a change of the form until
no answer is left in the mailbox; the same calls have been answered in both. Then the dispatchers are
the same in every field, and as many answers have been applied: one if the call that was waited for is
among those answered, and none if it is not. -/
theorem arrival_order_irrelevant (service service' : Service) (acts more more' : List Act)
    (hb : submits acts ≤ Revision.greatest.number) (hn : submits more = 0) (hn' : submits more' = 0) :
    let x := run service {} acts
    let x' := run service' {} acts
    let y := x.run service more
    let y' := x'.run service' more'
    x.AgreeOnWanted service service' → y.mailbox = [] → y'.mailbox = [] → y.calls = y'.calls →
      x.dispatcher = x'.dispatcher ∧ x.calls = x'.calls ∧
        y.dispatcher = y'.dispatcher ∧
        x.applied service more = x'.applied service' more' ∧
        x.applied service more =
          if ∃ posted ∈ y.calls, posted.answered = true ∧
            x.dispatcher.awaited = some posted.call.revision then 1 else 0 := by
  intro x x' y y' hagree hempty hempty' hcalls
  have hs := Journal.sound_empty.run acts
  have hbound := Journal.edits_le_greatest hb
  generalize hj : Journal.run {} acts = j at hs hbound
  have hx : x = j.exchange service := hj ▸ run_eq_exchange service hb
  have hx' : x' = j.exchange service' := hj ▸ run_eq_exchange service' hb
  have hy : y = (j.run more).exchange service := by
    show x.run service more = _
    rw [hx, Journal.run_exchange service hs (by rwa [hn])]
  have hy' : y' = (j.run more').exchange service' := by
    show x'.run service' more' = _
    rw [hx', Journal.run_exchange service' hs (by rwa [hn'])]
  obtain ⟨ts, hrun⟩ := j.exists_receiving hn
  obtain ⟨ts', hrun'⟩ := j.exists_receiving hn'
  have hsound : Sound (j.history.receiving ts) := hrun ▸ (hs.run more).history
  have hsound' : Sound (j.history.receiving ts') := hrun' ▸ (hs.run more').history
  rw [hx] at hagree ⊢
  rw [hx']
  rw [hy] at hempty hcalls ⊢
  rw [hy'] at hempty' hcalls ⊢
  have hw : (j.run more).waiting = [] := List.map_eq_nil_iff.1 hempty
  have hw' : (j.run more').waiting = [] := List.map_eq_nil_iff.1 hempty'
  have hset : ∀ t, t ∈ ts ↔ t ∈ ts' := fun _ =>
    Journal.mem_receiving_congr hs hrun hw hrun' hw' hcalls
  have hpast : ∀ t ∈ received j.history, service t.number t.request = service' t.number t.request :=
    fun t ht => hagree.agree hs hbound (hs.history.mem_calls ht) (.inl ht)
  have hcurrent : ∀ t ∈ ts, Current j.history t →
      service t.number t.request = service' t.number t.request :=
    fun t ht hc => hagree.agree hs hbound (hsound.of_receiving.2 t ht).1 (.inr hc)
  have hstart : (j.exchange service).dispatcher = (j.exchange service').dispatcher := by
    show History.dispatcher service (j.history.receiving []) =
      History.dispatcher service' (j.history.receiving [])
    exact dispatcher_receiving_congr hs.history hs.history (fun _ => Iff.rfl) hpast (by simp)
  have happlied := Journal.applied_exchange service hs hbound hn hrun
  refine ⟨hstart, rfl, ?_, ?_, ?_⟩
  · show History.dispatcher service (j.run more).history =
      History.dispatcher service' (j.run more').history
    rw [hrun, hrun']
    exact dispatcher_receiving_congr hsound hsound' hset hpast hcurrent
  · rw [happlied, Journal.applied_exchange service' hs hbound hn' hrun',
      List.countP_eq_length_filter, List.countP_eq_length_filter,
      filter_current_congr hsound hsound' hset]
  · rw [happlied, countP_current hsound]
    exact if_congr (Journal.exists_current_iff service hs hbound hrun hw) rfl rfl

/-- Three edits, with the answer to the first in the mailbox when the third is made. The answer to the
second, `late` from one of the services, comes before or after the one that is waited for. -/
def overtaken : List Act :=
  [.submit (.ofTexts "01" "11" "0"), .submit (.ofTexts "01" "11" "1"), .answer 0,
    .submit (.ofTexts "01" "10" "0")]

theorem arrival_order_irrelevant_overtaken :
    let late : Service := fun n request =>
      if n = 1 then .failure (.rejected "late") else request.reconstruct
    let x := run (fun _ => Request.reconstruct) {} overtaken
    let x' := run late {} overtaken
    let more : List Act := [.answer 2, .poll, .answer 1, .poll]
    let more' : List Act := [.answer 1, .next, .next, .answer 2, .next]
    (x.run (fun _ => Request.reconstruct) more).dispatcher = (x'.run late more').dispatcher ∧
      x.applied (fun _ => Request.reconstruct) more = x'.applied late more' ∧
      x.applied (fun _ => Request.reconstruct) more = 1 := by
  intro late x x' more more'
  obtain ⟨-, -, hsame, happlied, hone⟩ :=
    arrival_order_irrelevant (fun _ => Request.reconstruct) late overtaken more more'
      (by decide) (by decide) (by decide) (by decide +kernel) (by decide +kernel) (by decide +kernel)
      (by decide +kernel)
  exact ⟨hsame, happlied, hone.trans (if_pos (by decide +kernel))⟩

end Exchange
end ResidualForm
