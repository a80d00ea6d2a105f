import ResidualForm.Proofs.Service
import ResidualForm.Proofs.Session.Agreement

/-!
# ResidualForm.Proofs.Session.Reconstruction

What the user sees of a session whose service puts the functions together by itself
(`Request.reconstruct`): with no call in flight, the function that has the residuals in the form, or
the reason why there is none.
-/

namespace ResidualForm
namespace Session

open History

/-- With no call in flight, what is shown is the answer to what the form holds. -/
theorem Tracks.view_of_settled {service : Service} {j : Journal} {s : Session}
    (h : Tracks service j s) (hf : s.exchange.dispatcher.inFlight = 0) {request : Request}
    (hr : s.form.readiness = .ready request) :
    ∃ n, s.result.view = (service n request).view := by
  have hl : History.latest j.history = .ready request := h.latest.trans hr
  obtain ⟨t, ht, hc, rfl⟩ := exists_current hl
  have hreceived : t ∈ received j.history := by
    apply Decidable.byContradiction
    intro hn
    rw [h.dispatcher_eq] at hf
    exact h.sound.history.inFlight_ne_zero service ht hn hf
  exact ⟨t.number, h.view_of_received hreceived hc⟩

/-- In every state that a session can reach: with no call in flight, a ready form has its solution
shown if it has one, and an error with a message if not; and nothing is shown while a field is
empty. -/
theorem shows_solution (settings : FormSettings) (options : DisplayOptions) (k : Nat)
    (draws : Nat → Draw) (acts : List Act)
    (hb : textChanges (fun _ => Request.reconstruct) (start settings options k draws) acts ≤
      Revision.greatest.number) :
    let s := (start settings options k draws).run (fun _ => Request.reconstruct) acts
    (∀ request, s.exchange.dispatcher.inFlight = 0 → s.form.readiness = .ready request →
      (request.Solvable → ∃ v f, s.result.view = .output (String.ofList v) ∧
        TruthVector.parse v = .ok f ∧ request.SolvedBy f) ∧
      (¬ request.Solvable → ∃ message, s.result.view = .error message ∧
        Text.allBlank message.toList = false)) ∧
    (s.form.someEmpty = true → s.result.view = .output "-") := by
  intro s
  obtain ⟨j, h, he⟩ := exists_tracks (fun _ => Request.reconstruct) settings options k draws hb
  refine ⟨?_, ?_⟩
  · intro request hf hr
    obtain ⟨_, hview⟩ := h.view_of_settled hf hr
    obtain ⟨-, -, -, hlen, c, hc, hdigit⟩ := Form.readiness_eq_ready hr
    refine ⟨?_, ?_⟩
    · intro hs
      obtain ⟨f, hanswer, hsolved⟩ := Request.reconstruct_of_solvable hc hdigit hlen hs
      refine ⟨f.digits, f, ?_, f.parse_digits, hsolved⟩
      rw [hview, hanswer, Answer.view]
    · intro hs
      cases hanswer : request.reconstruct with
      | function digits => exact absurd (Request.solvable_of_reconstruct hc hdigit hanswer) hs
      | failure reason =>
        refine ⟨reason.shownMessage, ?_, reason.not_blank_shownMessage⟩
        rw [hview, hanswer, Answer.view]
  · intro hempty
    obtain ⟨-, hout, herr⟩ :=
      (h.agrees he).incomplete (s.form.readiness_eq_incomplete_iff.2 hempty)
    rw [ResultArea.view, herr, if_pos rfl, hout]

/-- The argument is changed while its call is under way; the answers come the other way round. -/
def renumbering : List Act :=
  [.setInputs ⟨"01".toList, "11".toList, "0".toList⟩, .focusPrevious,
    .event (.key { key := .backspace }), .event (.key { key := .char '1' }), .answer 1, .answer 0,
    .wait, .tick]

theorem shows_solution_renumbering :
    textChanges (fun _ => Request.reconstruct) plain renumbering ≤ Revision.greatest.number ∧
      (plain.run (fun _ => Request.reconstruct) renumbering).exchange.dispatcher.inFlight = 0 ∧
      (plain.run (fun _ => Request.reconstruct) renumbering).form.readiness =
        .ready ⟨"01".toList, "11".toList, "1".toList⟩ ∧
      ∃ v f, (plain.run (fun _ => Request.reconstruct) renumbering).result.view =
          .output (String.ofList v) ∧
        TruthVector.parse v = .ok f ∧ Request.SolvedBy ⟨"01".toList, "11".toList, "1".toList⟩ f := by
  have hb : textChanges (fun _ => Request.reconstruct) plain renumbering ≤
      Revision.greatest.number := by
    decide +kernel
  have hf : (plain.run (fun _ => Request.reconstruct) renumbering).exchange.dispatcher.inFlight =
      0 := by
    decide +kernel
  have hr : (plain.run (fun _ => Request.reconstruct) renumbering).form.readiness =
      .ready ⟨"01".toList, "11".toList, "1".toList⟩ := by
    decide +kernel
  have hs : Request.Solvable ⟨"01".toList, "11".toList, "1".toList⟩ :=
    ⟨by decide, by decide, 1, by decide, by decide⟩
  exact ⟨hb, hf, hr, ((shows_solution {} {} 3 _ renumbering hb).1 _ hf hr).1 hs⟩

end Session
end ResidualForm
