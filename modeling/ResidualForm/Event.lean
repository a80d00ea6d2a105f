import ResidualForm.Session

/-!
# ResidualForm.Event

What the terminal reports, and what each report does to a session.
-/

namespace ResidualForm

inductive Key where
  | char (c : Char)
  | escape
  | tab
  | backTab
  | enter
  | up
  | down
  | left
  | right
  | home
  | endOfLine
  | backspace
  | delete
  | insert
  | pageUp
  | pageDown
  | function (number : Nat)
  /-- A key without a use here. -/
  | unnamed
  deriving DecidableEq, Repr

inductive KeyAction where
  | press
  | repeated
  | release
  deriving DecidableEq, Repr

/-- A key with what was held beside it. Shift is no part of it: it shows in the key itself. -/
structure KeyEvent where
  key : Key
  ctrl : Bool := false
  alt : Bool := false
  action : KeyAction := .press
  deriving DecidableEq, Repr

inductive Event where
  | key (k : KeyEvent)
  | paste (text : List Char)
  | resize
  | focusGained
  | focusLost
  | mouse
  deriving DecidableEq, Repr

namespace Session

/-- What a key does when it goes down. -/
def press (s : Session) (k : KeyEvent) : Session :=
  match k.key with
  | .escape => s.requestQuit
  | .tab => s.focusNext
  | .down => s.focusNext
  | .enter => s.focusNext
  | .backTab => s.focusPrevious
  | .up => s.focusPrevious
  | .left => s.move .left
  | .right => s.move .right
  | .home => s.move .toStart
  | .endOfLine => s.move .toEnd
  | .backspace => (s.edit .backspace).1
  | .delete => (s.edit .delete).1
  | .char c =>
    if k.ctrl then
      if c = 'c' then s.requestQuit
      else if c = 'u' then (s.edit .clear).1
      else if c = 'r' then s.fillSample.1
      else s
    else if k.alt then s
    else (s.edit (.insert c)).1
  | _ => s

def handle (s : Session) : Event → Session
  | .key k =>
    match k.action with
    | .release => s
    | _ => s.press k
  | .paste text => (s.edit (.paste (text.filter fun c => c ≠ '\r' && c ≠ '\n'))).1
  | _ => s

/-- Handles an event and tells whether the program is to end. -/
def respond (s : Session) (e : Event) : Session × Bool :=
  let s := s.handle e
  (s, s.quitting)

end Session
end ResidualForm
