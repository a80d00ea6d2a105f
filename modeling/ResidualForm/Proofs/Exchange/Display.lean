import ResidualForm.Proofs.Exchange.Refinement

/-!
# ResidualForm.Proofs.Exchange.Display

What the result area shows after a run, told without revisions.

`result_told_by_marks`: the output is that of the last success which was taken in while its edit was
the latest, unless a field was emptied since; the error is that of the last mark, if it is a failure.
Nothing else that happens shows.
-/

namespace ResidualForm

namespace ResultArea

/-- An error, and nothing else, hides the output. -/
theorem view_eq_error_iff (a : ResultArea) : a.view = .error a.error ↔ a.error ≠ "" := by
  by_cases h : a.error = "" <;> simp [view, h]

theorem view_eq_output_iff (a : ResultArea) : a.view = .output a.output ↔ a.error = "" := by
  by_cases h : a.error = "" <;> simp [view, h]

end ResultArea

/-- A superseded answer leaves the result area as it is. -/
theorem Intake.result_of_superseded {i : Intake} (h : i.outcome = .superseded) :
    i.after.result = i.dispatcher.result := by
  by_cases ha : i.dispatcher.awaited = some i.completion.call.revision
  · cases hc : i.completion.answer with
    | function digits =>
      rw [outcome, Dispatcher.consume_function ha hc] at h
      cases h
    | failure reason =>
      rw [outcome, Dispatcher.consume_failure ha hc] at h
      cases h
  · rw [after, Dispatcher.consume_superseded ha]

namespace History

theorem error_ne_empty_iff (service : Service) (h : History) :
    error service h ≠ "" ↔ ∃ reason, (marks service h).head? = some (.answered (.failure reason)) := by
  constructor
  · intro hne
    rw [error] at hne
    split at hne
    · rename_i reason hm
      exact ⟨reason, hm⟩
    · exact absurd rfl hne
  · rintro ⟨reason, hm⟩
    rw [error, hm]
    exact reason.shownMessage_ne_empty

end History

namespace Exchange

open History

/-- A form without an empty field leaves the result area as it is, callable or not. -/
theorem result_submit_filled (service : Service) (x : Exchange) {form : Form}
    (he : form.someEmpty = false) :
    (x.step service (.submit form)).dispatcher.result = x.dispatcher.result := by
  have hne : form.readiness ≠ .incomplete := by
    rw [Ne, form.readiness_eq_incomplete_iff, he]
    exact Bool.false_ne_true
  cases hr : form.readiness with
  | incomplete => exact absurd hr hne
  | hold reason => simp [step, submit, hr, Dispatcher.formChanged]
  | ready request => simp [step, submit, hr, Dispatcher.formChanged]

/-- What the result area shows after any run from an empty exchange, with any service and any order
of its answers. -/
theorem result_told_by_marks (service : Service) (acts : List Act)
    (hb : submits acts ≤ Revision.greatest.number) :
    let marks := marks service (Journal.run {} acts).history
    let result := (run service {} acts).dispatcher.result
    (result.output =
        match marks.find? Mark.decidesOutput with
        | some (.answered (.function digits)) => digits
        | _ => "-") ∧
      (result.error ≠ "" ↔ ∃ reason, marks.head? = some (.answered (.failure reason))) ∧
      (∀ reason, marks.head? = some (.answered (.failure reason)) →
        result.error =
          if reason.message.toList.all Text.isBlank then "reconstruction failed: no error message"
          else reason.message) ∧
      (result.view = .error result.error ↔ result.error ≠ "") ∧
      (result.view = .output result.output ↔ result.error = "") ∧
      (∀ form, form.someEmpty = false →
        (run service {} (acts ++ [.submit form])).dispatcher.result = result) ∧
      ∀ i ∈ intakes service {} acts, i.outcome = .superseded →
        i.after.result = i.dispatcher.result := by
  intro marks result
  have hx : result = shown service (Journal.run {} acts).history := by
    show (run service {} acts).dispatcher.result = _
    rw [run_eq_exchange service hb]
    rfl
  refine ⟨?_, ?_, ?_, result.view_eq_error_iff, result.view_eq_output_iff, ?_, ?_⟩
  · rw [hx]
    rfl
  · rw [hx]
    exact error_ne_empty_iff service _
  · intro reason hm
    rw [hx]
    show History.error service _ = _
    rw [error, hm]
    rfl
  · intro form he
    rw [run_append]
    exact result_submit_filled service _ he
  · intro i _ hi
    exact i.result_of_superseded hi

/-- A success, and after another edit a failure that says nothing. -/
def lateFailure : List Act :=
  [.submit (.ofTexts "01" "11" "0"), .answer 0, .next, .submit (.ofTexts "01" "11" "1"), .answer 1,
    .poll]

/-- A service that succeeds once and then refuses without a word. -/
def silentRefusal : Service := fun n _ =>
  if n = 0 then .function "0111" else .failure (.rejected " ")

/-- The output stays behind the error. -/
theorem result_told_by_marks_late_failure :
    submits lateFailure ≤ Revision.greatest.number ∧
      (run silentRefusal {} lateFailure).dispatcher.result.output = "0111" ∧
      (run silentRefusal {} lateFailure).dispatcher.result.error =
        "reconstruction failed: no error message" := by
  have h := result_told_by_marks silentRefusal lateFailure (by decide)
  exact ⟨by decide, h.1, h.2.2.1 (.rejected " ") (by decide)⟩

end Exchange
end ResidualForm
