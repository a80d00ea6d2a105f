import ResidualForm.Event

/-!
# ResidualForm.Terminal.Pump

The queue between the reader of the terminal and the session. The reader waits while the queue is
full; a frame takes a bounded number of events, so that drawing is never starved.
-/

namespace ResidualForm
namespace Terminal

def queueCapacity : Nat := 1024

def eventsPerFrame : Nat := 64

structure Pump where
  /-- Events read and not yet handled, oldest first. -/
  queue : List Event := []
  closed : Bool := false
  deriving DecidableEq, Repr

/-- Why a frame could not go on. -/
inductive PumpFault where
  | disconnected
  deriving DecidableEq, Repr

def PumpFault.message : PumpFault → String
  | .disconnected => "input pump disconnected"

namespace Pump

/-- Appends an event, unless the reader has to wait or the pump is closed. -/
def offer (p : Pump) (e : Event) : Option Pump :=
  if p.closed || queueCapacity ≤ p.queue.length then none
  else some { p with queue := p.queue ++ [e] }

/-- Appends as many events as have room, and gives back the others. -/
def refill (p : Pump) : List Event → Pump × List Event
  | [] => (p, [])
  | e :: rest =>
    match p.offer e with
    | some p => p.refill rest
    | none => (p, e :: rest)

def close (p : Pump) : Pump :=
  { p with closed := true }

end Pump

/-- Handles at most `budget` queued events, and stops after one that makes the session quit. The
verdict is whether the session is quitting, or the fault of a pump that has run dry for good. -/
def handleQueued : Nat → Session → Pump → Session × Pump × Except PumpFault Bool
  | 0, s, p => (s, p, .ok s.quitting)
  | budget + 1, s, p =>
    match p.queue with
    | [] => (s, p, if p.closed then .error .disconnected else .ok s.quitting)
    | e :: rest =>
      let p := { p with queue := rest }
      match s.respond e with
      | (s, true) => (s, p, .ok true)
      | (s, false) => handleQueued budget s p

def handleFrame (s : Session) (p : Pump) : Session × Pump × Except PumpFault Bool :=
  handleQueued eventsPerFrame s p

/-- Runs frames until the session quits or all events are handled. -/
def runFrames : Nat → Session → Pump → List Event → Session × Pump
  | 0, s, p, _ => (s, p)
  | fuel + 1, s, p, waiting =>
    match p.refill waiting with
    | (p, waiting) =>
      match handleFrame s p with
      | (s, p, .ok false) =>
        if p.queue.isEmpty && waiting.isEmpty then (s, p) else runFrames fuel s p waiting
      | (s, p, _) => (s, p)

def runEvents (s : Session) (p : Pump) (events : List Event) : Session × Pump :=
  runFrames (p.queue.length + events.length + 1) s p events

end Terminal
end ResidualForm
