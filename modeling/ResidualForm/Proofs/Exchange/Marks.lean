import ResidualForm.Proofs.Exchange.Journal

/-!
# ResidualForm.Proofs.Exchange.Marks

What the result area has to show, read off a history.

An event bears on the result area (`Mark`) if it is an edit that left a field empty, or an answer
that was taken in while its edit was still the latest. The output is decided by the latest mark that
is no failure, the error by the latest mark alone (`shown`).
-/

namespace ResidualForm

/-- Some field is empty. -/
def Form.someEmpty (f : Form) : Bool :=
  Slot.all.any fun slot => (f.text slot).isEmpty

theorem Form.readiness_eq_incomplete_iff (f : Form) : f.readiness = .incomplete ↔ f.someEmpty = true := by
  have hor : f.someEmpty = (f.zero.text.isEmpty || f.one.text.isEmpty || f.argument.text.isEmpty) := by
    simp [someEmpty, Slot.all, text, Bool.or_assoc]
  rw [hor]
  constructor
  · intro h
    rw [readiness] at h
    split at h
    · assumption
    · repeat' split at h
      all_goals cases h
  · intro h
    rw [readiness, if_pos h]

theorem Failure.not_blank_shownMessage (f : Failure) : Text.allBlank f.shownMessage.toList = false := by
  rw [shownMessage]
  split
  · decide
  · rename_i h
    simpa using h

theorem Failure.shownMessage_ne_empty (f : Failure) : f.shownMessage ≠ "" := by
  intro h
  have := f.not_blank_shownMessage
  rw [h] at this
  cases this

/-- What bears on the result area. -/
inductive Mark where
  | emptied
  | answered (answer : Answer)
  deriving DecidableEq, Repr

/-- A failure leaves the output as it is. -/
def Mark.decidesOutput : Mark → Bool
  | .answered (.failure _) => false
  | _ => true

namespace History

/-- The marks of a history, the latest first. -/
def marks (service : Service) : History → List Mark
  | [] => []
  | .edited form :: past =>
    if form.someEmpty then .emptied :: marks service past else marks service past
  | .received t :: past =>
    if Current past t then .answered (service t.number t.request) :: marks service past
    else marks service past

/-- The last output that no emptied field has wiped out. -/
def output (service : Service) (h : History) : String :=
  match (marks service h).find? Mark.decidesOutput with
  | some (.answered (.function digits)) => digits
  | _ => placeholder

/-- The message of a failure that nothing has come after. -/
def error (service : Service) (h : History) : String :=
  match (marks service h).head? with
  | some (.answered (.failure reason)) => reason.shownMessage
  | _ => ""

def shown (service : Service) (h : History) : ResultArea :=
  { output := output service h, error := error service h }

variable {service : Service} {past : History}

theorem shown_emptied {form : Form} (he : form.someEmpty = true) :
    shown service (.edited form :: past) = {} := by
  simp [shown, output, error, marks, he, Mark.decidesOutput]

theorem shown_filled {form : Form} (he : form.someEmpty = false) :
    shown service (.edited form :: past) = shown service past := by
  simp [shown, output, error, marks, he]

theorem shown_superseded {t : Ticket} (hc : ¬ Current past t) :
    shown service (.received t :: past) = shown service past := by
  simp [shown, output, error, marks, hc]

theorem shown_function {t : Ticket} (hc : Current past t) {digits : String}
    (ha : service t.number t.request = .function digits) :
    shown service (.received t :: past) = (shown service past).succeed digits := by
  simp [shown, ResultArea.succeed, output, error, marks, hc, ha, List.find?_cons,
    Mark.decidesOutput]

theorem shown_failure {t : Ticket} (hc : Current past t) {reason : Failure}
    (ha : service t.number t.request = .failure reason) :
    shown service (.received t :: past) = (shown service past).fail reason.shownMessage := by
  simp [shown, ResultArea.fail, output, error, marks, hc, ha, Mark.decidesOutput]

end History
end ResidualForm
