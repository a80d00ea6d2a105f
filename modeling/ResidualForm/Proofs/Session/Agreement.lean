import ResidualForm.Proofs.Exchange.Outstanding
import ResidualForm.Proofs.Session.Run

/-!
# ResidualForm.Proofs.Session.Agreement

What is shown and what is waited for follows the form, in every state that a session can reach:

* a form with an empty field waits for nothing and shows nothing;
* a form that is held waits for nothing;
* a form that is ready waits for the one call that asks for its contents, or shows the answer to it.
-/

namespace ResidualForm

/-- How an answer is shown when it is let in. -/
def Answer.view : Answer → ResultView
  | .function digits => .output digits
  | .failure reason => .error reason.shownMessage

namespace History

variable {h : History} {request : Request}

theorem wanted_of_not_ready (hl : (latest h).request? = none) : wanted h = none := by
  rw [wanted, hl, ite_self]

theorem shown_of_incomplete (service : Service) (hs : Sound h) (hl : latest h = .incomplete) :
    shown service h = {} := by
  induction h with
  | nil => rfl
  | cons entry past ih =>
    cases entry with
    | edited form => exact shown_emptied (form.readiness_eq_incomplete_iff.1 hl)
    | received t =>
      -- the call of the latest edit would have needed a ready form
      have hc : ¬ Current past t := by
        intro hc
        have := latest_of_current hs.2.1 hc
        rw [latest, this] at hl
        cases hl
      rw [shown_superseded hc, ih hs.1 hl]

theorem head?_marks (service : Service) (hs : Sound h) {t : Ticket} (ht : t ∈ received h)
    (hc : Current h t) :
    (marks service h).head? = some (.answered (service t.number t.request)) := by
  induction h with
  | nil => simp [received] at ht
  | cons entry past ih =>
    cases entry with
    | edited form => exact absurd hc (not_current_edited (Sound.mem_calls (h := past) hs ht))
    | received u =>
      by_cases hu : Current past u
      · -- the latest edit has one call, so this is its answer
        have : u = t := eq_of_edit_eq hs.2.1 (Sound.mem_calls hs ht) (hu.trans hc.symm)
        rw [marks, if_pos hu, this, List.head?_cons]
      · have ht' : t ∈ received past := by
          rcases List.mem_cons.1 ht with rfl | ht
          · exact absurd hc hu
          · exact ht
        rw [marks, if_neg hu]
        exact ih hs.1 ht' hc

theorem view_of_answered (service : Service) {answer : Answer}
    (hm : (marks service h).head? = some (.answered answer)) :
    (shown service h).view = answer.view := by
  obtain ⟨older, hm⟩ := List.head?_eq_some_iff.1 hm
  cases answer with
  | function digits =>
    simp [ResultArea.view, Answer.view, shown, output, error, hm, List.find?_cons,
      Mark.decidesOutput]
  | failure reason =>
    simp [ResultArea.view, Answer.view, shown, error, hm, reason.shownMessage_ne_empty]

end History

namespace Session

open History

/-- An open call asks for what the form holds, or the answer to such a call is shown. -/
theorem Tracks.of_ready {service : Service} {j : Journal} {s : Session} (h : Tracks service j s)
    (hb : edits j.history ≤ Revision.greatest.number) {request : Request}
    (hr : s.form.readiness = .ready request) :
    let d := s.exchange.dispatcher
    (d.awaited = some d.revision ∧
        s.exchange.outstanding.filter (fun call => call.revision = d.revision) =
          [⟨d.revision, request⟩]) ∨
      (d.awaited = none ∧
        ∃ t ∈ received j.history, Current j.history t ∧ t.request = request) := by
  intro d
  have hd : d = dispatcher service j.history := h.dispatcher_eq
  have hl : History.latest j.history = .ready request := h.latest.trans hr
  by_cases hex : ∃ t ∈ received j.history, Current j.history t
  · obtain ⟨t, ht, hc⟩ := hex
    have hreq := latest_of_current (h.sound.history.mem_calls ht) hc
    rw [hl] at hreq
    refine .inr ⟨?_, t, ht, hc, ?_⟩
    · rw [hd, dispatcher, wanted, if_pos ⟨t, ht, hc⟩, Option.map_none]
    · exact (Readiness.ready.inj hreq).symm
  · obtain ⟨t, ht, hc, rfl⟩ := exists_current hl
    have hn : t ∉ received j.history := fun hmem => hex ⟨t, hmem, hc⟩
    refine .inl ⟨?_, ?_⟩
    · rw [hd, dispatcher, wanted_of_current h.sound.history ht hn hc, Option.map_some]
    · rw [hd, h.exchange, Journal.outstanding_exchange]
      rw [show (dispatcher service j.history).revision = .ofNumber (edits j.history) from rfl,
        h.sound.outstanding_current hb ht hn hc, Ticket.call, hc]

/-- The answer to the call of the latest edit is shown once it is taken in. -/
theorem Tracks.view_of_received {service : Service} {j : Journal} {s : Session}
    (h : Tracks service j s) {t : Ticket} (ht : t ∈ received j.history)
    (hc : Current j.history t) : s.result.view = (service t.number t.request).view := by
  rw [result, h.exchange]
  exact view_of_answered service (head?_marks service h.sound.history ht hc)

/-- What is shown and what is waited for follows the form. -/
structure Agrees (service : Service) (s : Session) : Prop where
  incomplete : s.form.readiness = .incomplete →
    s.exchange.dispatcher.awaited = none ∧ s.result.output = "-" ∧ s.result.error = ""
  held : ∀ reason, s.form.readiness = .hold reason → s.exchange.dispatcher.awaited = none
  /-- Either the one call of the latest revision is open and carries the contents of the form, or
  what the service answered to these contents is shown. -/
  ready : ∀ request, s.form.readiness = .ready request →
    (s.exchange.dispatcher.awaited = some s.exchange.dispatcher.revision ∧
        s.exchange.outstanding.filter (fun call => call.revision = s.exchange.dispatcher.revision) =
          [⟨s.exchange.dispatcher.revision, request⟩]) ∨
      (s.exchange.dispatcher.awaited = none ∧
        ∃ n posted, s.exchange.calls[n]? = some posted ∧ posted.answered = true ∧
          posted.call.request = request ∧
          match service n request with
          | .function digits => s.result.view = .output digits
          | .failure _ => ∃ message, s.result.view = .error message ∧
              Text.allBlank message.toList = false)

theorem Tracks.agrees {service : Service} {j : Journal} {s : Session} (h : Tracks service j s)
    (hb : edits j.history ≤ Revision.greatest.number) : Agrees service s := by
  have hd := h.dispatcher_eq
  have hresult : s.result = shown service j.history := congrArg Dispatcher.result hd
  refine ⟨?_, ?_, ?_⟩
  · intro hr
    have hl : History.latest j.history = .incomplete := h.latest.trans hr
    refine ⟨?_, ?_⟩
    · rw [hd, dispatcher, wanted_of_not_ready (by rw [hl]; rfl), Option.map_none]
    · rw [hresult, shown_of_incomplete service h.sound.history hl]
      exact ⟨rfl, rfl⟩
  · intro reason hr
    have hl : History.latest j.history = .hold reason := h.latest.trans hr
    rw [hd, dispatcher, wanted_of_not_ready (by rw [hl]; rfl), Option.map_none]
  · intro request hr
    rcases h.of_ready hb hr with hopen | ⟨hnone, t, ht, hc, rfl⟩
    · exact .inl hopen
    · have hcall : t ∈ calls j.history := h.sound.history.mem_calls ht
      have hview := h.view_of_received ht hc
      refine .inr ⟨hnone, t.number, j.posted t, ?_, decide_eq_true (.inr ht), rfl, ?_⟩
      · rw [h.exchange, Journal.getElem?_exchange_calls, getElem?_number hcall, Option.map_some]
      · cases ha : service t.number t.request with
        | function digits => exact hview.trans (congrArg Answer.view ha)
        | failure reason =>
          exact ⟨_, hview.trans (congrArg Answer.view ha), reason.not_blank_shownMessage⟩

/-- The form and the exchange agree in every state that a session can reach: with any settings and
any service, after any acts in which the texts do not change more often than there are revisions. -/
theorem form_and_exchange_agree (service : Service) (settings : FormSettings)
    (options : DisplayOptions) (k : Nat) (draws : Nat → Draw) (acts : List Act)
    (hb : textChanges service (start settings options k draws) acts ≤ Revision.greatest.number) :
    Agrees service ((start settings options k draws).run service acts) := by
  obtain ⟨j, h, he⟩ := exists_tracks service settings options k draws hb
  exact h.agrees he

/-- A digit is taken out and put back while the call is under way; its answer comes too late. -/
def retyping : List Act :=
  [.setInputs ⟨"01".toList, "11".toList, "0".toList⟩, .edit .backspace, .edit (.insert '1'),
    .answer 0, .tick]

/-- The texts are the same as before, but it is the second call that is waited for. -/
theorem form_and_exchange_agree_retyping :
    textChanges (fun _ => Request.reconstruct) plain retyping ≤ Revision.greatest.number ∧
      (plain.run (fun _ => Request.reconstruct) retyping).result.view = .output "-" ∧
      (plain.run (fun _ => Request.reconstruct) retyping).exchange.outstanding =
        [⟨⟨3, by decide⟩, "01".toList, "11".toList, "0".toList⟩] ∧
      Agrees (fun _ => Request.reconstruct) (plain.run (fun _ => Request.reconstruct) retyping) := by
  have hb : textChanges (fun _ => Request.reconstruct) plain retyping ≤
      Revision.greatest.number := by
    decide +kernel
  exact ⟨hb, by decide +kernel, by decide +kernel, form_and_exchange_agree _ {} {} 3 _ retyping hb⟩

end Session
end ResidualForm
