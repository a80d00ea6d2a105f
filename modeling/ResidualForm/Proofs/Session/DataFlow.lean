import ResidualForm.Proofs.Exchange.Outgoing
import ResidualForm.Proofs.Session.Run

/-!
# ResidualForm.Proofs.Session.DataFlow

Data flows one way: from the user through the form to the service, and never back. What the service
answers, and when its answers are taken in, shows in the result area only.

* `Alike`          — two sessions that differ in nothing but what came from the service.
* `alike_step`     — the acts of the service leave a session alike.
* `Alike.step`     — alike sessions stay so under an act of the user, and report the same.
* `Alike.run`, `Alike.observations_eq` — so do whole runs in which the user does the same.
-/

namespace ResidualForm
namespace Session

/-- What the user has put into a session, and what of it has gone out to the service. -/
structure Inputs where
  form : Form
  focus : Slot
  status : Option String
  quitting : Bool
  outgoing : Outgoing
  deriving DecidableEq, Repr

def inputs (s : Session) : Inputs :=
  { form := s.form
    focus := s.focus
    status := s.status
    quitting := s.quitting
    outgoing := s.exchange.outgoing }

/-- What an act reports to its caller: how a changed form was evaluated. -/
def reported (s : Session) : Act → Option Evaluation
  | .edit e => (s.edit e).2
  | .setInputs texts => (s.setInputs texts).2
  | .fillSample => s.fillSample.2
  | _ => none

structure Observation where
  inputs : Inputs
  reported : Option Evaluation
  deriving DecidableEq, Repr

/-- What is observed after each act of the user in a run. -/
def observations (service : Service) (s : Session) : List Act → List Observation
  | [] => []
  | act :: acts =>
    let s' := s.step service act
    if act.byUser then ⟨s'.inputs, s.reported act⟩ :: s'.observations service acts
    else s'.observations service acts

/-- The sessions differ in nothing but what came from the service. -/
def Alike (s t : Session) : Prop :=
  ∃ exchange, t = { s with exchange } ∧ exchange.outgoing = s.exchange.outgoing

variable {s t : Session}

theorem Alike.refl (s : Session) : s.Alike s :=
  ⟨s.exchange, rfl, rfl⟩

theorem Alike.symm (h : s.Alike t) : t.Alike s := by
  obtain ⟨x, rfl, hx⟩ := h
  exact ⟨s.exchange, rfl, hx.symm⟩

theorem Alike.trans {u : Session} (h : s.Alike t) (h' : t.Alike u) : s.Alike u := by
  obtain ⟨x, rfl, hx⟩ := h
  obtain ⟨y, rfl, hy⟩ := h'
  exact ⟨y, rfl, hy.trans hx⟩

theorem Alike.inputs_eq (h : s.Alike t) : t.inputs = s.inputs := by
  obtain ⟨x, rfl, hx⟩ := h
  simp only [inputs, hx]

/-- The acts of the service leave a session alike. -/
theorem alike_step (service : Service) (s : Session) {act : Act} (hu : act.byUser = false) :
    s.Alike (s.step service act) := by
  cases act with
  | answer n =>
    rw [step]
    split
    · exact .refl s
    · exact ⟨_, rfl, s.exchange.outgoing_answer _ _⟩
  | tick => exact ⟨_, rfl, s.exchange.outgoing_poll⟩
  | wait => exact ⟨_, rfl, s.exchange.outgoing_next⟩
  | _ => cases hu

theorem Alike.adopt (h : s.Alike t) (changed : Option Form) :
    (s.adopt changed).1.Alike (t.adopt changed).1 ∧
      (t.adopt changed).2 = (s.adopt changed).2 := by
  obtain ⟨x, rfl, hx⟩ := h
  cases changed with
  | none => exact ⟨⟨x, rfl, hx⟩, rfl⟩
  | some form =>
    refine ⟨⟨_, rfl, ?_⟩, ?_⟩
    · show (x.submit form.readiness).1.outgoing = (s.exchange.submit form.readiness).1.outgoing
      rw [Exchange.outgoing_submit, Exchange.outgoing_submit, hx]
    · show some (x.submit form.readiness).2 = some (s.exchange.submit form.readiness).2
      rw [Exchange.evaluation_submit, Exchange.evaluation_submit, hx]

theorem Alike.edit (h : s.Alike t) (e : Edit) :
    (s.edit e).1.Alike (t.edit e).1 ∧ (t.edit e).2 = (s.edit e).2 := by
  have hchanged : t.form.edit t.focus e = s.form.edit s.focus e := by
    obtain ⟨x, rfl, -⟩ := h
    rfl
  rw [Session.edit, Session.edit, hchanged]
  exact h.adopt _

theorem Alike.setInputs (h : s.Alike t) (texts : Request) :
    (s.setInputs texts).1.Alike (t.setInputs texts).1 ∧
      (t.setInputs texts).2 = (s.setInputs texts).2 := by
  have hchanged : t.form.replaceAll texts.zero texts.one texts.argument =
      s.form.replaceAll texts.zero texts.one texts.argument := by
    obtain ⟨x, rfl, -⟩ := h
    rfl
  rw [Session.setInputs, Session.setInputs, hchanged]
  exact h.adopt _

/-- The exercise is drawn before the exchange is asked for anything. -/
theorem Alike.fillSample (h : s.Alike t) :
    s.fillSample.1.Alike t.fillSample.1 ∧ t.fillSample.2 = s.fillSample.2 := by
  have hdraw : Sample.ofDraw t.exerciseArguments (t.draws t.drawn) =
      Sample.ofDraw s.exerciseArguments (s.draws s.drawn) := by
    obtain ⟨x, rfl, -⟩ := h
    rfl
  rw [Session.fillSample, Session.fillSample, hdraw]
  cases Sample.ofDraw s.exerciseArguments (s.draws s.drawn) with
  | error e =>
    obtain ⟨x, rfl, hx⟩ := h
    exact ⟨⟨x, rfl, hx⟩, rfl⟩
  | ok sample =>
    apply Alike.setInputs
    obtain ⟨x, rfl, hx⟩ := h
    exact ⟨x, rfl, hx⟩

theorem Alike.perform (h : s.Alike t) (c : Command) : (s.perform c).Alike (t.perform c) := by
  cases c with
  | edit e => exact (h.edit e).1
  | fillSample => exact h.fillSample.1
  | _ =>
    obtain ⟨x, rfl, hx⟩ := h
    exact ⟨x, rfl, hx⟩

theorem Alike.handle (h : s.Alike t) (e : Event) : (s.handle e).Alike (t.handle e) := by
  rw [handle_eq, handle_eq]
  cases e.command? with
  | none => exact h
  | some c => exact h.perform c

/-- Alike sessions stay so under an act of the user, and report the same of it. -/
theorem Alike.step (service service' : Service) (h : s.Alike t) {act : Act}
    (hu : act.byUser = true) :
    (s.step service act).Alike (t.step service' act) ∧ t.reported act = s.reported act := by
  cases act with
  | edit e => exact h.edit e
  | setInputs texts => exact h.setInputs texts
  | fillSample => exact h.fillSample
  | event e => exact ⟨h.handle e, rfl⟩
  | answer n => cases hu
  | tick => cases hu
  | wait => cases hu
  | _ =>
    obtain ⟨x, rfl, hx⟩ := h
    exact ⟨⟨x, rfl, hx⟩, rfl⟩

/-- With the acts of the service left out, a run comes to the same. -/
theorem Alike.run (service service' : Service) (h : s.Alike t) (acts : List Act) :
    (s.run service acts).Alike (t.run service' (acts.filter Act.byUser)) := by
  induction acts generalizing s t with
  | nil => exact h
  | cons act acts ih =>
    cases hu : act.byUser with
    | true =>
      rw [List.filter_cons_of_pos hu]
      exact ih (h.step service service' hu).1
    | false =>
      rw [List.filter_cons_of_neg (by simp [hu])]
      exact ih ((alike_step service s hu).symm.trans h)

theorem Alike.observations_eq (service service' : Service) (h : s.Alike t) (acts : List Act) :
    s.observations service acts = t.observations service' (acts.filter Act.byUser) := by
  induction acts generalizing s t with
  | nil => rfl
  | cons act acts ih =>
    cases hu : act.byUser with
    | true =>
      obtain ⟨hstep, hreported⟩ := h.step service service' hu
      rw [List.filter_cons_of_pos hu, observations, observations, if_pos hu, if_pos hu,
        hstep.inputs_eq, hreported, ih hstep]
    | false =>
      rw [List.filter_cons_of_neg (by simp [hu]), observations, if_neg (by simp [hu])]
      exact ih ((alike_step service s hu).symm.trans h)

/-- Two runs of a session in which the user does the same look the same to him after each of his
acts, but for the result area: the form with its cursors, the focus, the status line, whether the
session is quitting, the revision, the calls that went out, and what the act reported. The services
may be different ones, and give their answers at other times, which are taken in at others again. -/
theorem inputs_independent_of_service (service service' : Service) (settings : FormSettings)
    (options : DisplayOptions) (k : Nat) (draws : Nat → Draw) (acts acts' : List Act)
    (hu : acts.filter Act.byUser = acts'.filter Act.byUser) :
    (start settings options k draws).observations service acts =
        (start settings options k draws).observations service' acts' ∧
      ((start settings options k draws).run service acts).inputs =
        ((start settings options k draws).run service' acts').inputs := by
  have h := Alike.refl (start settings options k draws)
  constructor
  · rw [h.observations_eq service service acts, hu, ← h.observations_eq service' service acts']
  · have hrun := h.run service service acts
    rw [hu] at hrun
    exact (hrun.trans (h.run service' service acts').symm).inputs_eq.symm

/-- The first answer is there before a digit is taken out and another one put in. -/
def answeredAtOnce : List Act :=
  [.setInputs ⟨"01".toList, "11".toList, "0".toList⟩, .answer 0, .tick, .edit .backspace,
    .edit (.insert '0'), .answer 1, .wait]

/-- The same edits; but both answers come at the end, the second one first. -/
def answeredLate : List Act :=
  [.setInputs ⟨"01".toList, "11".toList, "0".toList⟩, .wait, .edit .backspace,
    .edit (.insert '0'), .answer 1, .answer 0, .tick]

/-- One service puts the functions together, the other is down; the same calls reach both. -/
theorem inputs_independent_of_service_down :
    let down : Service := fun _ _ => .failure (.failed "down")
    let solved := plain.run (fun _ => Request.reconstruct) answeredAtOnce
    let failed := plain.run down answeredLate
    answeredAtOnce.filter Act.byUser = answeredLate.filter Act.byUser ∧
      solved.result.view = .output "0101" ∧
      failed.result.view = .error "reconstruction failed: down" ∧
      plain.observations (fun _ => Request.reconstruct) answeredAtOnce =
        plain.observations down answeredLate ∧
      failed.inputs.outgoing.requests =
        [⟨"01".toList, "11".toList, "0".toList⟩, ⟨"00".toList, "11".toList, "0".toList⟩] := by
  intro down solved failed
  have hu : answeredAtOnce.filter Act.byUser = answeredLate.filter Act.byUser := rfl
  obtain ⟨hobserved, hinputs⟩ := inputs_independent_of_service (fun _ => Request.reconstruct) down
    {} {} 3 (fun _ => { value := fun _ => false, choice := 0 }) answeredAtOnce answeredLate hu
  have hrequests : solved.inputs.outgoing.requests =
      [⟨"01".toList, "11".toList, "0".toList⟩, ⟨"00".toList, "11".toList, "0".toList⟩] := by
    decide +kernel
  refine ⟨hu, by decide +kernel, by decide +kernel, hobserved, ?_⟩
  rw [← hrequests]
  exact congrArg (fun i => i.outgoing.requests) hinputs.symm

end Session
end ResidualForm
