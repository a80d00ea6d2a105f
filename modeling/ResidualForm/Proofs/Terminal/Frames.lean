import ResidualForm.Proofs.Session.DataFlow
import ResidualForm.Terminal.Pump

/-!
# ResidualForm.Proofs.Terminal.Frames

Events on their way from the terminal into a session: one side reads them into the queue of a pump,
the other takes them out of it frame by frame.

* `handleQueued_eq` — a frame applies the events at the head of the queue one by one: 64 at most, and
  none after one that makes the session quit.
* `Console` — both sides at work, in any interleaving, with answers of the service in between.
* `session_run`, `applied_append_queue` — what a run comes to for the session, and for the events.
-/

namespace ResidualForm

namespace Session

/-- Applies events one by one. -/
def handleAll (s : Session) (events : List Event) : Session :=
  events.foldl handle s

/-- The position, counted from 1, of the first event after which the session is quitting. -/
def exitPosition? (s : Session) (events : List Event) : Option Nat :=
  (List.range' 1 events.length).find? fun n => (s.handleAll (events.take n)).quitting

theorem exitPosition?_cons (s : Session) (e : Event) (rest : List Event) :
    s.exitPosition? (e :: rest) =
      if (s.handle e).quitting then some 1
      else ((s.handle e).exitPosition? rest).map (1 + ·) := by
  have hshift : List.range' (1 + 1) rest.length = (List.range' 1 rest.length).map (1 + ·) := by
    rw [List.map_add_range']
  rw [exitPosition?, List.length_cons, List.range'_succ, List.find?_cons, hshift, List.find?_map]
  cases hq : (s.handle e).quitting with
  | true => simp [handleAll, hq]
  | false =>
    have htake : (fun n => (s.handleAll ((e :: rest).take n)).quitting) ∘ (1 + ·) =
        fun n => ((s.handle e).handleAll (rest.take n)).quitting := by
      funext n
      simp [handleAll, Nat.add_comm 1 n]
    rw [htake]
    simp [handleAll, hq, exitPosition?]

/-- The event of an act that applies one. -/
def Act.event? : Act → Option Event
  | .event e => some e
  | _ => none

theorem filterMap_event (events : List Event) :
    (events.map Act.event).filterMap Act.event? = events := by
  rw [List.filterMap_map]
  exact List.filterMap_some

theorem run_event (service : Service) (s : Session) (events : List Event) :
    s.run service (events.map .event) = s.handleAll events := by
  rw [run, List.foldl_map]
  rfl

end Session

namespace Terminal

/-- How many of the events in a queue are applied, if there is time for `budget` of them. -/
def takenWithin (budget : Nat) (s : Session) (queue : List Event) : Nat :=
  min budget (min queue.length ((s.exitPosition? queue).getD queue.length))

theorem takenWithin_cons (budget : Nat) (s : Session) (e : Event) (rest : List Event) :
    takenWithin (budget + 1) s (e :: rest) =
      if (s.handle e).quitting then 1 else takenWithin budget (s.handle e) rest + 1 := by
  rw [takenWithin, Session.exitPosition?_cons]
  split
  · simp
  · rw [takenWithin]
    cases (s.handle e).exitPosition? rest with
    | none => simp
    | some n =>
      simp only [Option.map_some, Option.getD_some, List.length_cons]
      omega

/-- The events at the head of the queue are applied one by one, and the others are left. -/
theorem handleQueued_eq (budget : Nat) (s : Session) {p : Pump} (hp : p.closed = false) :
    handleQueued budget s p =
      let n := takenWithin budget s p.queue
      (s.handleAll (p.queue.take n), { p with queue := p.queue.drop n },
        .ok (s.handleAll (p.queue.take n)).quitting) := by
  induction budget generalizing s p with
  | zero => simp [handleQueued, takenWithin, Session.handleAll]
  | succ budget ih =>
    obtain ⟨queue, closed⟩ := p
    subst hp
    cases queue with
    | nil => simp [handleQueued, takenWithin, Session.handleAll]
    | cons e rest =>
      rw [handleQueued, takenWithin_cons]
      cases hq : (s.handle e).quitting with
      | true => simp [Session.respond, Session.handleAll, hq]
      | false => simp [Session.respond, Session.handleAll, hq, ih]

/-- The program at work: what is still to be read, what waits in the pump, and the session. -/
structure Console where
  /-- What will be typed, in its order. -/
  unread : List Event
  pump : Pump := {}
  session : Session

namespace Console

inductive Act where
  /-- The reader puts the next event into the queue, or waits for room in it. -/
  | read
  | frame
  | tick
  | wait
  /-- The service answers the call of this number. -/
  | answer (call : Nat)

def step (service : Service) (c : Console) : Act → Console
  | .read =>
    match c.unread with
    | [] => c
    | e :: rest =>
      match c.pump.offer e with
      | none => c
      | some pump => { c with unread := rest, pump }
  | .frame =>
    match handleFrame c.session c.pump with
    | (session, pump, _) => { c with pump, session }
  | .tick => { c with session := c.session.step service .tick }
  | .wait => { c with session := c.session.step service .wait }
  | .answer n => { c with session := c.session.step service (.answer n) }

def run (service : Service) (c : Console) (acts : List Act) : Console :=
  acts.foldl (step service) c

/-- The events that an act puts into the queue. -/
def sentBy (c : Console) : Act → List Event
  | .read => if c.pump.queue.length < queueCapacity then c.unread.take 1 else []
  | _ => []

/-- The events put into the queue in a run. -/
def sent (service : Service) (c : Console) : List Act → List Event
  | [] => []
  | act :: acts => c.sentBy act ++ (c.step service act).sent service acts

/-- The events that a frame applies. -/
def due (c : Console) : List Event :=
  c.pump.queue.take (takenWithin eventsPerFrame c.session c.pump.queue)

/-- What an act comes to for the session. -/
def sessionActs (c : Console) : Act → List Session.Act
  | .read => []
  | .frame => c.due.map .event
  | .tick => [.tick]
  | .wait => [.wait]
  | .answer n => [.answer n]

/-- What a run comes to for the session. -/
def trace (service : Service) (c : Console) : List Act → List Session.Act
  | [] => []
  | act :: acts => c.sessionActs act ++ (c.step service act).trace service acts

/-- The events applied in a run. -/
def applied (service : Service) (c : Console) (acts : List Act) : List Event :=
  (c.trace service acts).filterMap Session.Act.event?

/-- The pump is open, and no more events wait in it than there is room for. -/
structure Open (c : Console) : Prop where
  closed_eq : c.pump.closed = false
  length_le : c.pump.queue.length ≤ queueCapacity

variable {service : Service} {c : Console}

theorem step_frame (h : c.Open) :
    c.step service .frame =
      { c with
        pump := { c.pump with
          queue := c.pump.queue.drop (takenWithin eventsPerFrame c.session c.pump.queue) }
        session := c.session.handleAll c.due } := by
  rw [step, handleFrame, handleQueued_eq eventsPerFrame c.session h.closed_eq]
  rfl

theorem step_read (h : c.Open) :
    c.step service .read =
      { c with
        unread := c.unread.drop (c.sentBy .read).length
        pump := { c.pump with queue := c.pump.queue ++ c.sentBy .read } } := by
  obtain ⟨unread, ⟨queue, closed⟩, session⟩ := c
  obtain ⟨rfl, -⟩ := h
  cases unread with
  | nil => simp [step, sentBy]
  | cons e rest =>
    by_cases hroom : queue.length < queueCapacity
    · simp [step, sentBy, Pump.offer, hroom, Nat.not_le_of_lt hroom]
    · simp [step, sentBy, Pump.offer, hroom, Nat.le_of_not_lt hroom]

theorem Open.step (h : c.Open) (act : Act) : (c.step service act).Open := by
  cases act with
  | read =>
    rw [step_read h]
    refine ⟨h.closed_eq, ?_⟩
    have hle := h.length_le
    simp only [sentBy, List.length_append]
    split
    · rename_i hroom
      have hone := List.length_take_le 1 c.unread
      omega
    · simpa using hle
  | frame =>
    rw [step_frame h]
    exact ⟨h.closed_eq, Nat.le_trans (by simp) h.length_le⟩
  | _ => exact ⟨h.closed_eq, h.length_le⟩

/-- An act puts the events it reads at the end of the queue, and applies those at its head. -/
theorem due_append_queue_step (h : c.Open) (act : Act) :
    (c.sessionActs act).filterMap Session.Act.event? ++ (c.step service act).pump.queue =
      c.pump.queue ++ c.sentBy act := by
  cases act with
  | read =>
    rw [step_read h]
    rfl
  | frame =>
    rw [step_frame h]
    rw [sessionActs, Session.filterMap_event, sentBy, List.append_nil]
    · exact List.take_append_drop _ _
    · rintro ⟨⟩
  | _ => simp [sessionActs, Session.Act.event?, sentBy, step]

theorem sent_append_unread_step (h : c.Open) (act : Act) :
    c.sentBy act ++ (c.step service act).unread = c.unread := by
  cases act with
  | read =>
    rw [step_read h]
    simp only [sentBy]
    split
    · cases c.unread <;> simp
    · simp
  | frame =>
    rw [step_frame h]
    rfl
  | _ => rfl

theorem session_step (h : c.Open) (act : Act) :
    (c.step service act).session = c.session.run service (c.sessionActs act) := by
  cases act with
  | read =>
    rw [step_read h]
    rfl
  | frame =>
    rw [step_frame h]
    exact (c.session.run_event service c.due).symm
  | _ => rfl

theorem filter_sessionActs (c : Console) (act : Act) :
    (c.sessionActs act).filter Session.Act.byUser =
      ((c.sessionActs act).filterMap Session.Act.event?).map .event := by
  cases act with
  | frame =>
    rw [sessionActs, Session.filterMap_event, List.filter_eq_self]
    rintro _ hact
    obtain ⟨e, -, rfl⟩ := List.mem_map.1 hact
    rfl
  | _ => rfl

theorem Open.run (h : c.Open) (acts : List Act) : (c.run service acts).Open := by
  induction acts generalizing c with
  | nil => exact h
  | cons act acts ih => exact ih (h.step act)

/-- What has been applied, and what waits to be, is what waited at first and what was put in. -/
theorem applied_append_queue (h : c.Open) (acts : List Act) :
    c.applied service acts ++ (c.run service acts).pump.queue =
      c.pump.queue ++ c.sent service acts := by
  induction acts generalizing c with
  | nil => exact (List.append_nil _).symm
  | cons act acts ih =>
    calc c.applied service (act :: acts) ++ (c.run service (act :: acts)).pump.queue
        = (c.sessionActs act).filterMap Session.Act.event? ++
            ((c.step service act).applied service acts ++
              ((c.step service act).run service acts).pump.queue) := by
          rw [applied, trace, List.filterMap_append, List.append_assoc]
          rfl
      _ = (c.sessionActs act).filterMap Session.Act.event? ++
            ((c.step service act).pump.queue ++ (c.step service act).sent service acts) := by
          rw [ih (h.step act)]
      _ = c.pump.queue ++ (c.sentBy act ++ (c.step service act).sent service acts) := by
          rw [← List.append_assoc, due_append_queue_step h act, List.append_assoc]

theorem sent_append_unread (h : c.Open) (acts : List Act) :
    c.sent service acts ++ (c.run service acts).unread = c.unread := by
  induction acts generalizing c with
  | nil => rfl
  | cons act acts ih =>
    calc c.sent service (act :: acts) ++ (c.run service (act :: acts)).unread
        = c.sentBy act ++ ((c.step service act).sent service acts ++
            ((c.step service act).run service acts).unread) := by
          rw [sent, List.append_assoc]
          rfl
      _ = c.unread := by rw [ih (h.step act), sent_append_unread_step h act]

theorem session_run (h : c.Open) (acts : List Act) :
    (c.run service acts).session = c.session.run service (c.trace service acts) := by
  induction acts generalizing c with
  | nil => rfl
  | cons act acts ih =>
    rw [trace, Session.run, List.foldl_append, ← Session.run, ← Session.run, ← session_step h act]
    exact ih (h.step act)

theorem filter_trace (c : Console) (acts : List Act) :
    (c.trace service acts).filter Session.Act.byUser = (c.applied service acts).map .event := by
  induction acts generalizing c with
  | nil => rfl
  | cons act acts ih =>
    rw [applied, trace, List.filter_append, List.filterMap_append, List.map_append,
      filter_sessionActs, ih]
    rfl

/-- However the reader, the frames and the answers of the service interleave: what has been applied
and what waits in the queue is what has been read, in its order. A frame applies the first events of
the queue, up to 64 and up to one that makes the session quit, and leaves the others. And the inputs
are those of a session to which the events are applied one by one. -/
theorem events_applied_in_order (service : Service) (s : Session) (events : List Event)
    (acts : List Act) :
    let start : Console := { unread := events, session := s }
    let c := start.run service acts
    let queue := c.pump.queue
    let n := min 64 (min queue.length ((c.session.exitPosition? queue).getD queue.length))
    start.applied service acts ++ queue = start.sent service acts ∧
      start.sent service acts ++ c.unread = events ∧
      queue.length ≤ 1024 ∧
      handleFrame c.session c.pump =
        (c.session.handleAll (queue.take n), { c.pump with queue := queue.drop n },
          .ok (c.session.handleAll (queue.take n)).quitting) ∧
      c.session = s.run service (start.trace service acts) ∧
      c.session.inputs = (s.handleAll (start.applied service acts)).inputs := by
  intro start c queue n
  have hopen : start.Open := ⟨rfl, Nat.zero_le _⟩
  have hsession : c.session = s.run service (start.trace service acts) := session_run hopen acts
  refine ⟨applied_append_queue hopen acts, sent_append_unread hopen acts,
    (hopen.run acts).length_le, ?_, hsession, ?_⟩
  · exact handleQueued_eq eventsPerFrame c.session (hopen.run acts).closed_eq
  · have halike := (Session.Alike.refl s).run service service (start.trace service acts)
    rw [filter_trace, Session.run_event] at halike
    rw [hsession]
    exact halike.inputs_eq.symm

end Console
end Terminal
end ResidualForm
