import ResidualForm.Event
import ResidualForm.Proofs.Exchange.Refinement
import ResidualForm.Proofs.Form

/-!
# ResidualForm.Proofs.Session.Run

Runs of a session: edits, moves, terminal events, answers, ticks and waits in any order.

* `handle_eq`   — a terminal event is a command, or nothing at all.
* `told_step`   — an act of the user tells the exchange of the form where a text is another one, and
  nowhere else.
* `effect_step` — all that an act can do to the form and to the exchange.
* `Tracks`      — the journal of the exchange tells the state of the session's exchange, and its
  latest form has the verdict of the session's form.
* `Tracks.step`, `exists_tracks` — one act, and a whole run from the start.
-/

namespace ResidualForm

/-- What a key or another event of the terminal can ask of a session. -/
inductive Command where
  | edit (e : Edit)
  | fillSample
  | move (m : Motion)
  | focusNext
  | focusPrevious
  | quit

def KeyEvent.command? (k : KeyEvent) : Option Command :=
  match k.key with
  | .escape => some .quit
  | .tab => some .focusNext
  | .down => some .focusNext
  | .enter => some .focusNext
  | .backTab => some .focusPrevious
  | .up => some .focusPrevious
  | .left => some (.move .left)
  | .right => some (.move .right)
  | .home => some (.move .toStart)
  | .endOfLine => some (.move .toEnd)
  | .backspace => some (.edit .backspace)
  | .delete => some (.edit .delete)
  | .char c =>
    if k.ctrl then
      if c = 'c' then some .quit
      else if c = 'u' then some (.edit .clear)
      else if c = 'r' then some .fillSample
      else none
    else if k.alt then none
    else some (.edit (.insert c))
  | _ => none

def Event.command? : Event → Option Command
  | .key k => if k.action = .release then none else k.command?
  | .paste text => some (.edit (.paste (text.filter fun c => c ≠ '\r' && c ≠ '\n')))
  | _ => none

namespace Session

def perform (s : Session) : Command → Session
  | .edit e => (s.edit e).1
  | .fillSample => s.fillSample.1
  | .move m => s.move m
  | .focusNext => s.focusNext
  | .focusPrevious => s.focusPrevious
  | .quit => s.requestQuit

theorem press_eq (s : Session) (k : KeyEvent) : s.press k = k.command?.elim s s.perform := by
  rw [press, KeyEvent.command?]
  cases k.key with
  | char c =>
    simp only
    split
    · split
      · rfl
      · split
        · rfl
        · split <;> rfl
    · split <;> rfl
  | _ => rfl

/-- An event does what it asks for, and nothing where it asks for nothing. -/
theorem handle_eq (s : Session) (e : Event) : s.handle e = e.command?.elim s s.perform := by
  cases e with
  | key k =>
    rw [handle, Event.command?]
    cases k.action with
    | release => rfl
    | press => exact s.press_eq k
    | repeated => exact s.press_eq k
  | _ => rfl

inductive Act where
  | edit (e : Edit)
  | setInputs (texts : Request)
  | fillSample
  | move (m : Motion)
  | focus (slot : Slot)
  | focusNext
  | focusPrevious
  | quit
  | event (e : Event)
  /-- The service answers the call of this number. -/
  | answer (call : Nat)
  | tick
  | wait

def step (service : Service) (s : Session) : Act → Session
  | .edit e => (s.edit e).1
  | .setInputs texts => (s.setInputs texts).1
  | .fillSample => s.fillSample.1
  | .move m => s.move m
  | .focus slot => { s with focus := slot }
  | .focusNext => s.focusNext
  | .focusPrevious => s.focusPrevious
  | .quit => s.requestQuit
  | .event e => s.handle e
  | .answer n =>
    match s.exchange.calls[n]? with
    | none => s
    | some posted => (s.answer n (service n posted.call.request)).1
  | .tick => s.tick
  | .wait => s.wait.1

def run (service : Service) (s : Session) (acts : List Act) : Session :=
  acts.foldl (step service) s

/-- The number of acts of a run that change a text of the form. -/
def textChanges (service : Service) (s : Session) : List Act → Nat
  | [] => 0
  | act :: acts =>
    (if (s.step service act).form.request = s.form.request then 0 else 1) +
      textChanges service (s.step service act) acts

@[simp] theorem run_nil (service : Service) (s : Session) : s.run service [] = s := rfl

@[simp] theorem run_cons (service : Service) (s : Session) (act : Act) (acts : List Act) :
    s.run service (act :: acts) = (s.step service act).run service acts := rfl

/-- The acts of the user. The others come from the service, or take in what came from it. -/
def Act.byUser : Act → Bool
  | .answer _ => false
  | .tick => false
  | .wait => false
  | _ => true

/-- What an act of the user does to the form and the exchange. -/
inductive Told (s s' : Session) : Prop where
  /-- The texts stay, and the exchange is told nothing. -/
  | quiet (placed : s'.form.Placed) (request : s'.form.request = s.form.request)
      (readiness : s'.form.readiness = s.form.readiness) (exchange : s'.exchange = s.exchange)
  /-- A text is another one, and the exchange is told of the new form. -/
  | edited (form : s.form.Edited s'.form)
      (exchange : s'.exchange = (s.exchange.submit s'.form.readiness).1)

variable {service : Service} {s s' : Session}

theorem Told.of_eq {t : Session} (hf : t.form = s.form) (hx : t.exchange = s.exchange)
    (h : Told t s') : Told s s' := by
  cases h with
  | quiet placed request readiness exchange =>
    exact .quiet placed (hf ▸ request) (hf ▸ readiness) (hx ▸ exchange)
  | edited form exchange => exact .edited (hf ▸ form) (hx ▸ exchange)

theorem told_unchanged (hp : s.form.Placed) (hf : s'.form = s.form)
    (hx : s'.exchange = s.exchange) : Told s s' :=
  .quiet (hf ▸ hp) (by rw [hf]) (by rw [hf]) hx

theorem told_adopt (hp : s.form.Placed) {changed : Option Form}
    (hc : ∀ form, changed = some form → s.form.Edited form) : Told s (s.adopt changed).1 := by
  cases changed with
  | none => exact told_unchanged hp rfl rfl
  | some form => exact .edited (hc form rfl) rfl

theorem told_edit (hp : s.form.Placed) (e : Edit) : Told s (s.edit e).1 :=
  told_adopt hp fun _ he => Form.edited_of_edit hp he

theorem told_setInputs (hp : s.form.Placed) (texts : Request) : Told s (s.setInputs texts).1 :=
  told_adopt hp fun _ hr => Form.edited_of_replaceAll hp hr

theorem told_fillSample (hp : s.form.Placed) : Told s s.fillSample.1 := by
  rw [fillSample]
  cases Sample.ofDraw s.exerciseArguments (s.draws s.drawn) with
  | error e => exact told_unchanged hp rfl rfl
  | ok sample =>
    refine Told.of_eq ?_ ?_ (told_setInputs ?_ sample.request)
    · rfl
    · rfl
    · exact hp

theorem told_move (hp : s.form.Placed) (m : Motion) : Told s (s.move m) :=
  .quiet (hp.move _ _) (Form.request_move _ _ _) (Form.readiness_move _ _ _) rfl

theorem told_perform (hp : s.form.Placed) (c : Command) : Told s (s.perform c) := by
  cases c with
  | edit e => exact told_edit hp e
  | fillSample => exact told_fillSample hp
  | move m => exact told_move hp m
  | _ => exact told_unchanged hp rfl rfl

theorem told_handle (hp : s.form.Placed) (e : Event) : Told s (s.handle e) := by
  rw [handle_eq]
  cases e.command? with
  | none => exact told_unchanged hp rfl rfl
  | some c => exact told_perform hp c

theorem told_step (service : Service) (hp : s.form.Placed) {act : Act} (hu : act.byUser = true) :
    Told s (s.step service act) := by
  cases act with
  | edit e => exact told_edit hp e
  | setInputs texts => exact told_setInputs hp texts
  | fillSample => exact told_fillSample hp
  | move m => exact told_move hp m
  | event e => exact told_handle hp e
  | answer n => cases hu
  | tick => cases hu
  | wait => cases hu
  | _ => exact told_unchanged hp rfl rfl

/-- What an act does to the form and the exchange. -/
inductive Effect (service : Service) (s s' : Session) : Prop where
  /-- The texts stay, and the exchange hears nothing. -/
  | quiet (placed : s'.form.Placed) (request : s'.form.request = s.form.request)
      (readiness : s'.form.readiness = s.form.readiness) (exchange : s'.exchange = s.exchange)
  /-- A text is another one, and the exchange hears of the new form. -/
  | edited (form : s.form.Edited s'.form)
      (exchange : s'.exchange = s.exchange.step service (.submit s'.form))
  /-- The form stays, and something happens in the exchange. -/
  | exchanged (act : Exchange.Act) (submits : Exchange.submits [act] = 0)
      (form : s'.form = s.form) (exchange : s'.exchange = s.exchange.step service act)

theorem Told.effect (service : Service) (h : Told s s') : Effect service s s' := by
  cases h with
  | quiet placed request readiness exchange => exact .quiet placed request readiness exchange
  | edited form exchange => exact .edited form exchange

/-- All that an act can do to the form and to the exchange. -/
theorem effect_step (service : Service) (hp : s.form.Placed) (act : Act) :
    Effect service s (s.step service act) := by
  cases act with
  | answer n =>
    apply Effect.exchanged (.answer n) rfl
    · simp only [step]
      cases s.exchange.calls[n]? <;> rfl
    · simp only [step, Exchange.step]
      cases s.exchange.calls[n]? <;> rfl
  | tick => exact .exchanged .poll rfl rfl rfl
  | wait => exact .exchanged .next rfl rfl rfl
  | _ => exact (told_step service hp rfl).effect service

open History

/-- The journal tells the exchange of the session, and the session's form has the verdict of the
journal's latest. -/
structure Tracks (service : Service) (j : Journal) (s : Session) : Prop where
  sound : j.Sound
  placed : s.form.Placed
  exchange : s.exchange = j.exchange service
  latest : latest j.history = s.form.readiness

theorem Tracks.dispatcher_eq {j : Journal} (h : Tracks service j s) :
    s.exchange.dispatcher = dispatcher service j.history :=
  congrArg Exchange.dispatcher h.exchange

theorem tracks_start (service : Service) (settings : FormSettings) (options : DisplayOptions)
    (k : Nat) (draws : Nat → Draw) : Tracks service {} (start settings options k draws) :=
  ⟨Journal.sound_empty, Form.placed_ofSettings settings, rfl, rfl⟩

/-- An act is noted by one entry of the journal at most, and by an edit only where a text changes. -/
theorem Tracks.step {j : Journal} (h : Tracks service j s)
    (hb : edits j.history ≤ Revision.greatest.number) (act : Act) :
    ∃ j', Tracks service j' (s.step service act) ∧
      edits j'.history = edits j.history + textChanges service s [act] := by
  cases effect_step service h.placed act with
  | quiet placed request readiness exchange =>
    refine ⟨j, ⟨h.sound, placed, exchange.trans h.exchange, ?_⟩, ?_⟩
    · rw [readiness, h.latest]
    · simp [textChanges, request]
  | edited form exchange =>
    have hx := Journal.step_exchange service h.sound hb (.submit (s.step service act).form)
    rw [← h.exchange] at hx
    refine ⟨_, ⟨h.sound.step _, form.placed, exchange.trans hx, rfl⟩, ?_⟩
    rw [Journal.edits_step]
    simp [textChanges, form.request_ne, Exchange.submits]
  | exchanged xact submits form exchange =>
    have hx := Journal.step_exchange service h.sound hb xact
    rw [← h.exchange] at hx
    refine ⟨_, ⟨h.sound.step _, form ▸ h.placed, exchange.trans hx, ?_⟩, ?_⟩
    · rw [Journal.latest_step j submits, form, h.latest]
    · rw [Journal.edits_step, submits]
      simp [textChanges, form]

theorem Tracks.run {j : Journal} (h : Tracks service j s) (acts : List Act)
    (hb : edits j.history + textChanges service s acts ≤ Revision.greatest.number) :
    ∃ j', Tracks service j' (s.run service acts) ∧
      edits j'.history = edits j.history + textChanges service s acts := by
  induction acts generalizing j s with
  | nil => exact ⟨j, h, rfl⟩
  | cons act acts ih =>
    obtain ⟨j₁, h₁, he₁⟩ := h.step (by omega) act
    simp only [textChanges, Nat.add_zero] at hb he₁ ⊢
    obtain ⟨j₂, h₂, he₂⟩ := ih h₁ (by omega)
    exact ⟨j₂, h₂, by omega⟩

theorem exists_tracks (service : Service) (settings : FormSettings) (options : DisplayOptions)
    (k : Nat) (draws : Nat → Draw) {acts : List Act}
    (hb : textChanges service (start settings options k draws) acts ≤ Revision.greatest.number) :
    ∃ j, Tracks service j ((start settings options k draws).run service acts) ∧
      edits j.history ≤ Revision.greatest.number := by
  have h₀ := tracks_start service settings options k draws
  have hzero : edits (Journal.history {}) = 0 := rfl
  obtain ⟨j, h, he⟩ := h₀.run acts (by omega)
  exact ⟨j, h, by omega⟩

/-- A session with the usual settings, of which no exercise is asked. -/
def plain : Session :=
  start {} {} 3 fun _ => { value := fun _ => false, choice := 0 }

end Session
end ResidualForm
