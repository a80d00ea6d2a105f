import Mathlib.Data.List.Forall2
import Mathlib.Data.List.Nodup
import ResidualForm.Proofs.Exchange.Refinement

/-!
# ResidualForm.Proofs.Exchange.Currency

Which answers are let in. Over every run, with as many edits as there are revisions to number them:
an answer is applied, and shows, if the edit that issued its call is still the latest, and leaves no
trace but in the count of the calls in flight if it is not.

* `History.receipts` — the answers taken in, each with what had happened before.
* `intakes_eq_map`   — the answers that the exchange takes in are those that the journal notes.
* `Handled`          — what becomes of one of them, and what the dispatcher is afterwards.
* `answers_applied_iff_current` — every answer of every run is handled so, and none is lost.
-/

namespace ResidualForm

namespace History

/-- The answers taken in, in their order, each with what had happened before it. -/
def receipts : History → List (Ticket × History)
  | [] => []
  | .edited _ :: past => receipts past
  | .received t :: past => receipts past ++ [(t, past)]

/-- An answer as the history says it is taken in. -/
def intake (service : Service) (receipt : Ticket × History) : Intake :=
  { dispatcher := dispatcher service receipt.2, completion := receipt.1.completion service }

theorem map_fst_receipts (h : History) : (receipts h).map Prod.fst = (received h).reverse := by
  induction h with
  | nil => rfl
  | cons entry past ih => cases entry <;> simp [receipts, received, ih]

theorem Sound.of_receipts {h : History} (hs : Sound h) {t : Ticket} {past : History}
    (hr : (t, past) ∈ receipts h) :
    Sound past ∧ t ∈ calls past ∧ t ∉ received past ∧ edits past ≤ edits h := by
  induction h with
  | nil => simp [receipts] at hr
  | cons entry older ih =>
    cases entry with
    | edited form =>
      obtain ⟨h1, h2, h3, h4⟩ := ih hs hr
      exact ⟨h1, h2, h3, Nat.le_succ_of_le h4⟩
    | received u =>
      rcases List.mem_append.1 hr with hr | hr
      · exact ih hs.1 hr
      · cases List.mem_singleton.1 hr
        exact ⟨hs.1, hs.2.1, hs.2.2, Nat.le_refl _⟩

end History

namespace Journal

open History

theorem receipts_receive {j : Journal} {t : Ticket} {rest : List Ticket} (hw : j.waiting = t :: rest) :
    receipts j.receive.history = receipts j.history ++ [(t, j.history)] := by
  rw [receive, hw]
  rfl

theorem taken_exchange (service : Service) {j : Journal} (hs : j.Sound)
    (hb : edits j.history ≤ Revision.greatest.number) (act : Exchange.Act) :
    (receipts (j.step act).history).map (intake service) =
      (receipts j.history).map (intake service) ++ (j.exchange service).taken act := by
  cases act with
  | submit form => simp [step, receipts, Exchange.taken]
  | answer n =>
    rw [step, Exchange.taken, List.append_nil]
    split
    · rfl
    · split <;> rfl
  | next =>
    cases hw : j.waiting with
    | nil =>
      have hm := mailbox_of_nil service hw
      simp [step, receive, hw, Exchange.taken, hm, Dispatcher.intakes]
    | cons t rest =>
      have hm := mailbox_of_cons service hw
      have ht : t ∈ j.waiting := by rw [hw]; exact List.mem_cons_self
      have hne : (j.exchange service).dispatcher.inFlight ≠ 0 :=
        hs.history.inFlight_ne_zero service (hs.issued t ht) (hs.fresh t ht)
      simp only [step, receipts_receive hw, List.map_append, Exchange.taken, if_neg hne, hm]
      rfl
  | poll =>
    induction hw : j.waiting generalizing j with
    | nil =>
      have hm := mailbox_of_nil service hw
      simp [step, hw, Exchange.taken, hm, Dispatcher.intakes]
    | cons t rest ih =>
      have hr : j.receive.waiting = rest := by rw [receive, hw]
      have hm := mailbox_of_cons service hw
      have ht := ih hs.receive (by rwa [edits_receive]) hr
      rw [step_poll_receive, receipts_receive hw, receive_exchange service hs hb hw] at ht
      rw [ht, List.map_append, List.append_assoc, Exchange.taken, Exchange.taken, hm]
      rfl

theorem intakes_exchange (service : Service) {j : Journal} (hs : j.Sound) {acts : List Exchange.Act}
    (hb : edits j.history + Exchange.submits acts ≤ Revision.greatest.number) :
    (receipts (j.run acts).history).map (intake service) =
      (receipts j.history).map (intake service) ++ (j.exchange service).intakes service acts := by
  induction acts generalizing j with
  | nil => simp [Exchange.intakes]
  | cons act acts ih =>
    have hcons := edits_run j (act :: acts)
    rw [run_cons, edits_run, edits_step] at hcons
    rw [run_cons, ih (hs.step act) (by rw [edits_step]; omega), Exchange.intakes,
      step_exchange service hs (by omega), taken_exchange service hs (by omega), List.append_assoc]

end Journal

open History

/-- What becomes of the answer to a call that is taken in after `past`. -/
structure Handled (service : Service) (t : Ticket) (past : History) (i : Intake) : Prop where
  completion : i.completion = t.completion service
  /-- Applied if no edit has come after the one that issued the call, whatever became of it. -/
  applied_iff : i.outcome = .applied ↔ Current past t
  /-- It is let in then: a success shows in place of what was there, a failure above the output. And
  nothing is waited for any more. -/
  current : Current past t →
    i.after =
      { i.dispatcher with
        awaited := none
        inFlight := i.dispatcher.inFlight - 1
        result :=
          match i.completion.answer with
          | .function digits => { output := digits, error := "" }
          | .failure reason => { i.dispatcher.result with error := reason.shownMessage } }
  superseded : ¬ Current past t →
    i.outcome = .superseded ∧
      i.after = { i.dispatcher with inFlight := i.dispatcher.inFlight - 1 }
  /-- What is applied was asked for by the form as it stands. -/
  request : i.outcome = .applied → latest past = .ready i.completion.call.request

theorem handled_intake (service : Service) {t : Ticket} {past : History} (hs : Sound past)
    (ht : t ∈ calls past) (hn : t ∉ received past)
    (hb : edits past ≤ Revision.greatest.number) :
    Handled service t past (intake service (t, past)) := by
  have hc := consume_dispatcher service hb hs ht hn
  have hiff : (intake service (t, past)).outcome = .applied ↔ Current past t := by
    show ((dispatcher service past).consume (t.completion service)).2 = .applied ↔ _
    rw [hc]
    by_cases hcur : Current past t <;> simp [hcur]
  refine ⟨rfl, hiff, ?_, ?_, ?_⟩
  · intro hcur
    have ha := (awaited_eq_iff service hb hs ht hn).2 hcur
    cases hanswer : (t.completion service).answer with
    | function digits =>
      have hafter := congrArg Prod.fst (Dispatcher.consume_function ha hanswer)
      simpa only [intake, Intake.after, hanswer, ResultArea.succeed] using hafter
    | failure reason =>
      have hafter := congrArg Prod.fst (Dispatcher.consume_failure ha hanswer)
      simpa only [intake, Intake.after, hanswer, ResultArea.fail] using hafter
  · intro hcur
    have ha := mt (awaited_eq_iff service hb hs ht hn).1 hcur
    have hsup := Dispatcher.consume_superseded (c := t.completion service) ha
    exact ⟨congrArg Prod.snd hsup, congrArg Prod.fst hsup⟩
  · intro happ
    exact latest_of_current ht (hiff.1 happ)

/-- No edit has two answers taken in. -/
theorem receipts_edit_nodup {h : History} (hs : Sound h) :
    ((receipts h).map fun receipt => receipt.1.edit).Nodup := by
  have hmap : ((receipts h).map fun receipt => receipt.1.edit) =
      (received h).reverse.map Ticket.edit := by
    rw [← map_fst_receipts, List.map_map]
    rfl
  rw [hmap]
  refine List.Nodup.map_on ?_ (List.nodup_reverse.2 hs.received_nodup)
  intro t ht u hu he
  rw [List.mem_reverse] at ht hu
  exact eq_of_edit_eq (hs.mem_calls ht) (hs.mem_calls hu) he

/-- Whatever is asked of the answers besides, one answer at most of an edit passes. -/
theorem countP_receipts_le_one {h : History} (hs : Sound h) (edit : Nat)
    (p : Ticket × History → Bool) :
    ((receipts h).countP fun receipt => receipt.1.edit = edit && p receipt) ≤ 1 := by
  calc ((receipts h).countP fun receipt => receipt.1.edit = edit && p receipt)
      ≤ (receipts h).countP fun receipt => receipt.1.edit == edit := by
        apply List.countP_mono_left
        intro receipt _ hp
        rw [Bool.and_eq_true, decide_eq_true_eq] at hp
        exact beq_iff_eq.2 hp.1
    _ = ((receipts h).map fun receipt => receipt.1.edit).count edit := by
        rw [List.count, List.countP_map]
        rfl
    _ ≤ 1 := List.nodup_iff_count_le_one.1 (receipts_edit_nodup hs) edit

namespace Exchange

theorem intakes_eq_map (service : Service) {acts : List Act}
    (hb : submits acts ≤ Revision.greatest.number) :
    intakes service {} acts = (receipts (Journal.run {} acts).history).map (intake service) := by
  have hb' : edits (Journal.history {}) + submits acts ≤ Revision.greatest.number := by
    rwa [show edits (Journal.history {}) = 0 from rfl, Nat.zero_add]
  exact (Journal.intakes_exchange service Journal.sound_empty hb').symm

theorem handled_intakes (service : Service) {acts : List Act}
    (hb : submits acts ≤ Revision.greatest.number) :
    List.Forall₂ (fun receipt i => Handled service receipt.1 receipt.2 i)
      (receipts (Journal.run {} acts).history) (intakes service {} acts) := by
  rw [intakes_eq_map service hb, List.forall₂_map_right_iff, List.forall₂_same]
  rintro ⟨t, past⟩ hr
  obtain ⟨hs, ht, hn, hle⟩ := (Journal.sound_empty.run acts).history.of_receipts hr
  exact handled_intake service hs ht hn (Nat.le_trans hle (Journal.edits_le_greatest hb))

theorem countP_intakes_le_one (service : Service) {acts : List Act}
    (hb : submits acts ≤ Revision.greatest.number) (edit : Nat) (p : Intake → Bool) :
    (((receipts (Journal.run {} acts).history).zip (intakes service {} acts)).countP fun q =>
      q.1.1.edit = edit && p q.2) ≤ 1 := by
  have hzip : (receipts (Journal.run {} acts).history).zip (intakes service {} acts) =
      (receipts (Journal.run {} acts).history).map fun r => (r, intake service r) := by
    rw [intakes_eq_map service hb]
    simpa using List.zip_map' (f := id) (g := intake service)
      (l := receipts (Journal.run {} acts).history)
  rw [hzip, List.countP_map]
  exact countP_receipts_le_one (Journal.sound_empty.run acts).history edit fun r => p (intake service r)

/-- No answer is lost on the way. -/
theorem mem_intakes_or_mem_mailbox (service : Service) {acts : List Act}
    (hb : submits acts ≤ Revision.greatest.number) {posted : Posted}
    (hposted : posted ∈ (run service {} acts).calls) (hanswered : posted.answered = true) :
    (∃ i ∈ intakes service {} acts, i.completion.call = posted.call) ∨
      ∃ c ∈ (run service {} acts).mailbox, c.call = posted.call := by
  rw [run_eq_exchange service hb] at hposted ⊢
  obtain ⟨t, -, rfl⟩ := List.mem_map.1 hposted
  rcases of_decide_eq_true hanswered with hw | hr
  · exact .inr ⟨_, List.mem_map_of_mem hw, rfl⟩
  · rw [← List.mem_reverse, ← map_fst_receipts] at hr
    obtain ⟨receipt, hmem, rfl⟩ := List.mem_map.1 hr
    exact .inl ⟨_, intakes_eq_map service hb ▸ List.mem_map_of_mem hmem, rfl⟩

/-- The answers to the current inputs, and no others, are applied, and none of them is lost. On any run
from an empty exchange, with any service and any order of its answers, each answer taken in is
`Handled` by the rule of the latest edit; an edit has one applied answer at most; an answer that was
given has been taken in or is waiting in the mailbox. What an act other than an edit takes in goes on
top of what was taken in before, and is passed through the dispatcher answer by answer; `poll` tells
how many of its answers were applied, and `next` what became of its one. -/
theorem answers_applied_iff_current (service : Service) (acts : List Act)
    (hb : submits acts ≤ Revision.greatest.number) :
    let receipts := receipts (Journal.run {} acts).history
    let intakes := intakes service {} acts
    let x := run service {} acts
    List.Forall₂ (fun receipt i => Handled service receipt.1 receipt.2 i) receipts intakes ∧
      (∀ edit, ((receipts.zip intakes).countP fun p =>
        p.1.1.edit = edit && p.2.outcome = .applied) ≤ 1) ∧
      (∀ posted ∈ x.calls, posted.answered = true →
        (∃ i ∈ intakes, i.completion.call = posted.call) ∨
          ∃ c ∈ x.mailbox, c.call = posted.call) ∧
      (∀ act, submits [act] = 0 →
        Exchange.intakes service {} (acts ++ [act]) = intakes ++ x.taken act ∧
          (x.step service act).dispatcher = (x.taken act).foldl (fun _ i => i.after) x.dispatcher) ∧
      x.poll.2 = ((x.taken .poll).countP fun i => i.outcome = .applied) ∧
      x.next.2 =
        match x.taken .next with
        | [] => if x.dispatcher.inFlight = 0 then .idle else .waiting
        | i :: _ => .received i.outcome := by
  intro receipts intakes x
  refine ⟨handled_intakes service hb, ?_, ?_, ?_, ?_, ?_⟩
  · intro edit
    exact countP_intakes_le_one service hb edit fun i => i.outcome = .applied
  · intro posted hposted hanswered
    exact mem_intakes_or_mem_mailbox service hb hposted hanswered
  · intro act hn
    exact ⟨intakes_concat service {} acts act, x.dispatcher_step service hn⟩
  · rw [poll_eq]
  · rw [next_eq]
    cases x.taken .next <;> rfl

/-- Two edits; the second call is answered before the first. -/
def overtaking : List Act :=
  [.submit (.ofTexts "00" "11" "0"), .submit (.ofTexts "00" "11" "1"), .answer 1, .answer 0, .poll]

theorem answers_applied_iff_current_overtaking :
    submits overtaking ≤ Revision.greatest.number ∧
      List.Forall₂ (fun receipt i => Handled (fun _ => Request.reconstruct) receipt.1 receipt.2 i)
        (receipts (Journal.run {} overtaking).history)
        (intakes (fun _ => Request.reconstruct) {} overtaking) ∧
      (intakes (fun _ => Request.reconstruct) {} overtaking).map Intake.outcome =
        [.applied, .superseded] ∧
      (run (fun _ => Request.reconstruct) {} overtaking).dispatcher.result =
        { output := "0011", error := "" } :=
  ⟨by decide, (answers_applied_iff_current _ overtaking (by decide)).1, by decide, by decide⟩

end Exchange
end ResidualForm
