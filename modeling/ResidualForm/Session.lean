import ResidualForm.Exchange
import ResidualForm.Options
import ResidualForm.Sample

/-!
# ResidualForm.Session

A user's session: the form, the field in focus, and the exchange with the service. An edit goes to
the form first; only one that changes the form reaches the exchange. Nothing flows back from the
exchange into the form.
-/

namespace ResidualForm

structure Session where
  form : Form
  focus : Slot := .zero
  exchange : Exchange := {}
  options : DisplayOptions := {}
  /-- The number of arguments wished for in an exercise. -/
  sampleArguments : Nat := 3
  /-- The random draws of the exercises to come. -/
  draws : Nat → Draw
  /-- How many exercises have been drawn. -/
  drawn : Nat := 0
  status : Option String := none
  quitting : Bool := false

namespace Session

def start (settings : FormSettings) (options : DisplayOptions) (sampleArguments : Nat)
    (draws : Nat → Draw) : Session :=
  { form := .ofSettings settings, options, sampleArguments, draws }

/-- Whether the answer for the contents of the form is still to come. -/
def loading (s : Session) : Bool :=
  s.exchange.dispatcher.awaited.isSome

def result (s : Session) : ResultArea :=
  s.exchange.dispatcher.result

/-- Takes on a changed form, if it did change. -/
def adopt (s : Session) (changed : Option Form) : Session × Option Evaluation :=
  match changed with
  | none => (s, none)
  | some form =>
    match s.exchange.submit form.readiness with
    | (exchange, evaluation) => ({ s with form, exchange }, some evaluation)

def edit (s : Session) (e : Edit) : Session × Option Evaluation :=
  s.adopt (s.form.edit s.focus e)

def setInputs (s : Session) (texts : Request) : Session × Option Evaluation :=
  s.adopt (s.form.replaceAll texts.zero texts.one texts.argument)

/-- The number of arguments of the next exercise: as wished, as far as its residuals fit. -/
def exerciseArguments (s : Session) : Nat :=
  min s.sampleArguments (argumentsForLength s.form.settings.residualLimit)

def fillSample (s : Session) : Session × Option Evaluation :=
  let s' := { s with drawn := s.drawn + 1 }
  match Sample.ofDraw s.exerciseArguments (s.draws s.drawn) with
  | .ok sample => { s' with status := some sample.caption }.setInputs sample.request
  | .error e => ({ s' with status := some s!"Cannot build sample: {e.message}" }, none)

def move (s : Session) (m : Motion) : Session :=
  { s with form := s.form.move s.focus m }

def focusNext (s : Session) : Session :=
  { s with focus := s.focus.next }

def focusPrevious (s : Session) : Session :=
  { s with focus := s.focus.previous }

def requestQuit (s : Session) : Session :=
  { s with quitting := true }

/-- Takes in the answers that have arrived since the last frame. -/
def tick (s : Session) : Session :=
  { s with exchange := s.exchange.poll.1 }

def wait (s : Session) : Session × Reception :=
  match s.exchange.next with
  | (exchange, reception) => ({ s with exchange }, reception)

/-- The service answers call number `n`. -/
def answer (s : Session) (n : Nat) (a : Answer) : Session × Delivery :=
  match s.exchange.answer n a with
  | (exchange, delivery) => ({ s with exchange }, delivery)

def answerAll (s : Session) (service : Request → Answer) : Session :=
  { s with exchange := s.exchange.answerAll service }

end Session
end ResidualForm
