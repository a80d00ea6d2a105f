import ResidualForm.Proofs.Exchange.Outgoing
import ResidualForm.Proofs.Session.Run

/-!
# ResidualForm.Proofs.Session.Events

What an event of the terminal does to a session, and what it leaves alone.

* `command?_eq_fillSample_iff`, `command?_moves_focus_iff`, `command?_of_ignored` — which events ask
  for what.
* `text_perform_of_ne`, `focus_perform`, `quitting_perform` — what a command does to the parts of a
  session.
* `Told.exchange_of_text_eq`, `Told.outgoing_of_text_ne` — the form is evaluated once where a text is
  another one, and not at all where all texts are the same.
-/

namespace ResidualForm

namespace Event

/-- One of the keys that move the focus goes down. -/
def MovesFocus (e : Event) : Prop :=
  ∃ k, e = .key k ∧ k.action ≠ .release ∧ k.key ∈ [.tab, .down, .enter, .backTab, .up]

/-- Ctrl and R go down. -/
def DrawsSample (e : Event) : Prop :=
  ∃ k, e = .key k ∧ k.action ≠ .release ∧ k.key = .char 'r' ∧ k.ctrl = true

/-- A key goes up, or a character goes down with Alt alone, or with Ctrl and none that goes with it. -/
def Ignored (e : Event) : Prop :=
  ∃ k, e = .key k ∧
    (k.action = .release ∨
      ∃ c, k.key = .char c ∧
        (k.alt = true ∧ k.ctrl = false ∨ k.ctrl = true ∧ c ≠ 'c' ∧ c ≠ 'u' ∧ c ≠ 'r'))

end Event

namespace KeyEvent

theorem command?_eq_fillSample_iff {k : KeyEvent} :
    k.command? = some .fillSample ↔ k.key = .char 'r' ∧ k.ctrl = true := by
  rw [command?]
  cases k.key with
  | char c => grind
  | _ => simp

theorem command?_moves_focus_iff {k : KeyEvent} :
    k.command? = some .focusNext ∨ k.command? = some .focusPrevious ↔
      k.key ∈ [.tab, .down, .enter, .backTab, .up] := by
  rw [command?]
  cases k.key with
  | char c =>
    have hkey : Key.char c ∉ [.tab, .down, .enter, .backTab, .up] := by simp
    grind
  | _ => simp

end KeyEvent

namespace Event

theorem command?_eq_fillSample_iff {e : Event} :
    e.command? = some .fillSample ↔ e.DrawsSample := by
  cases e with
  | key k =>
    by_cases hk : k.action = .release
    · simp [command?, DrawsSample, hk]
    · simp [command?, DrawsSample, hk, KeyEvent.command?_eq_fillSample_iff]
  | _ => simp [command?, DrawsSample]

theorem command?_moves_focus_iff {e : Event} :
    e.command? = some .focusNext ∨ e.command? = some .focusPrevious ↔ e.MovesFocus := by
  cases e with
  | key k =>
    by_cases hk : k.action = .release
    · simp [command?, MovesFocus, hk]
    · simp [command?, MovesFocus, hk, KeyEvent.command?_moves_focus_iff]
  | _ => simp [command?, MovesFocus]

theorem command?_of_ignored {e : Event} (h : e.Ignored) : e.command? = none := by
  obtain ⟨k, rfl, hrelease | ⟨c, hc, ⟨ha, hn⟩ | ⟨hctrl, hquit, hclear, hsample⟩⟩⟩ := h
  · simp [command?, hrelease]
  · simp [command?, KeyEvent.command?, hc, ha, hn]
  · simp [command?, KeyEvent.command?, hc, hctrl, hquit, hclear, hsample]

end Event

namespace Session

variable {s s' : Session}

theorem adopt_focus (s : Session) (changed : Option Form) :
    (s.adopt changed).1.focus = s.focus := by
  cases changed <;> rfl

theorem adopt_quitting (s : Session) (changed : Option Form) :
    (s.adopt changed).1.quitting = s.quitting := by
  cases changed <;> rfl

theorem focus_fillSample (s : Session) : s.fillSample.1.focus = s.focus := by
  rw [fillSample]
  split
  · exact adopt_focus _ _
  · rfl

theorem quitting_fillSample (s : Session) : s.fillSample.1.quitting = s.quitting := by
  rw [fillSample]
  split
  · exact adopt_quitting _ _
  · rfl

theorem focus_perform (s : Session) (c : Command) :
    (s.perform c).focus =
      match c with
      | .focusNext => s.focus.next
      | .focusPrevious => s.focus.previous
      | _ => s.focus := by
  cases c with
  | edit e => exact adopt_focus _ _
  | fillSample => exact focus_fillSample s
  | _ => rfl

theorem quitting_perform (hq : s.quitting = true) (c : Command) : (s.perform c).quitting = true := by
  cases c with
  | edit e => exact (adopt_quitting _ _).trans hq
  | fillSample => exact (quitting_fillSample s).trans hq
  | quit => rfl
  | _ => exact hq

/-- Only an exercise is put into fields that have not the focus. -/
theorem text_perform_of_ne {c : Command} (hc : c ≠ .fillSample) {slot : Slot}
    (hs : slot ≠ s.focus) :
    (s.perform c).form.text slot = s.form.text slot ∧
      (s.perform c).form.cursor slot = s.form.cursor slot := by
  cases c with
  | edit e =>
    rw [perform, edit]
    cases he : s.form.edit s.focus e with
    | none => exact ⟨rfl, rfl⟩
    | some form => exact Form.edit_of_ne he hs
  | fillSample => exact absurd rfl hc
  | move m => exact s.form.move_of_ne m hs
  | _ => exact ⟨rfl, rfl⟩

theorem perform_of_moves_focus {c : Command} (h : c = .focusNext ∨ c = .focusPrevious) :
    (s.perform c).focus ≠ s.focus ∧ s.perform c = { s with focus := (s.perform c).focus } := by
  rcases h with rfl | rfl
  · exact ⟨by rw [focus_perform]; cases s.focus <;> simp [Slot.next], rfl⟩
  · exact ⟨by rw [focus_perform]; cases s.focus <;> simp [Slot.previous], rfl⟩

theorem Told.exchange_of_text_eq (h : Told s s')
    (ht : ∀ slot, s'.form.text slot = s.form.text slot) : s'.exchange = s.exchange := by
  cases h with
  | quiet _ _ _ exchange => exact exchange
  | edited form _ => exact absurd (Form.request_eq_iff.2 ht) form.request_ne

theorem Told.outgoing_of_text_ne (h : Told s s')
    (ht : ∃ slot, s'.form.text slot ≠ s.form.text slot) :
    s'.exchange.outgoing = s.exchange.outgoing.submit s'.form.readiness := by
  cases h with
  | quiet _ request _ _ =>
    obtain ⟨slot, hne⟩ := ht
    exact absurd (Form.request_eq_iff.1 request slot) hne
  | edited _ exchange => rw [exchange, Exchange.outgoing_submit]

/-- What is true of a session from its start on. -/
structure Orderly (s : Session) : Prop where
  placed : s.form.Placed
  counted : s.exchange.outgoing.Counted

theorem orderly_start (settings : FormSettings) (options : DisplayOptions) (k : Nat)
    (draws : Nat → Draw) : (start settings options k draws).Orderly :=
  ⟨Form.placed_ofSettings settings, fun _ => Nat.le_refl 0⟩

theorem Orderly.step {service : Service} (h : s.Orderly) (act : Act) :
    (s.step service act).Orderly := by
  cases effect_step service h.placed act with
  | quiet placed _ _ exchange => exact ⟨placed, exchange ▸ h.counted⟩
  | edited form exchange =>
    refine ⟨form.placed, ?_⟩
    rw [exchange, Exchange.step, Exchange.outgoing_submit]
    exact h.counted.submit _
  | exchanged xact submits form exchange =>
    refine ⟨form ▸ h.placed, ?_⟩
    rw [exchange, Exchange.outgoing_step service _ submits]
    exact h.counted

theorem Orderly.run {service : Service} (h : s.Orderly) (acts : List Act) :
    (s.run service acts).Orderly := by
  induction acts generalizing s with
  | nil => exact h
  | cons act acts ih => exact ih (h.step act)

theorem handle_of_moves_focus {e : Event} (h : e.MovesFocus) :
    (s.handle e).focus ≠ s.focus ∧ s.handle e = { s with focus := (s.handle e).focus } := by
  rw [handle_eq]
  rcases Event.command?_moves_focus_iff.2 h with hc | hc
  · rw [hc]
    exact perform_of_moves_focus (.inl rfl)
  · rw [hc]
    exact perform_of_moves_focus (.inr rfl)

theorem focus_handle_ne_iff {e : Event} : (s.handle e).focus ≠ s.focus ↔ e.MovesFocus := by
  constructor
  · intro hne
    rw [← Event.command?_moves_focus_iff]
    rw [handle_eq] at hne
    cases hc : e.command? with
    | none => exact absurd (by rw [hc]; rfl) hne
    | some c =>
      rw [hc, Option.elim_some, focus_perform] at hne
      cases c with
      | focusNext => exact .inl rfl
      | focusPrevious => exact .inr rfl
      | _ => exact absurd rfl hne
  · exact fun h => (handle_of_moves_focus h).1

theorem text_handle_of_ne {e : Event} (he : ¬ e.DrawsSample) {slot : Slot} (hs : slot ≠ s.focus) :
    (s.handle e).form.text slot = s.form.text slot ∧
      (s.handle e).form.cursor slot = s.form.cursor slot := by
  rw [← Event.command?_eq_fillSample_iff] at he
  rw [handle_eq]
  cases hc : e.command? with
  | none => exact ⟨rfl, rfl⟩
  | some c => exact text_perform_of_ne (fun h => he (by rw [hc, h])) hs

theorem quitting_handle (hq : s.quitting = true) (e : Event) : (s.handle e).quitting = true := by
  rw [handle_eq]
  cases e.command? with
  | none => exact hq
  | some c => exact quitting_perform hq c

/-- In every state that a session can reach, an event is answered with one evaluation of the form if
a text is another one after it, and with none if all texts are the same. The form is called out just
if it is ready. Nothing but a sample gets into a field without the focus; a key that moves the focus
does nothing else; ignored keys do nothing; and once the session is quitting, as each event is told,
it stays so. -/
theorem event_evaluates_changed_texts (service : Service) (settings : FormSettings)
    (options : DisplayOptions) (k : Nat) (draws : Nat → Draw) (acts : List Act) (e : Event) :
    let s := (start settings options k draws).run service acts
    let s' := (s.respond e).1
    let d := s.exchange.dispatcher
    let d' := s'.exchange.dispatcher
    ((∀ slot, s'.form.text slot = s.form.text slot) → s'.exchange = s.exchange) ∧
      ((∃ slot, s'.form.text slot ≠ s.form.text slot) →
        d.revision.number < Revision.greatest.number →
          d'.revision.number = d.revision.number + 1 ∧ d.issued ≤ d.revision.number ∧
            ((∃ request, s'.form.readiness = .ready request) → d'.issued = d.issued + 1) ∧
            ((∀ request, s'.form.readiness ≠ .ready request) → d'.issued = d.issued)) ∧
      (¬ e.DrawsSample → ∀ slot, slot ≠ s.focus →
        s'.form.text slot = s.form.text slot ∧ s'.form.cursor slot = s.form.cursor slot) ∧
      (s'.focus ≠ s.focus ↔ e.MovesFocus) ∧
      (e.MovesFocus → s' = { s with focus := s'.focus }) ∧
      (e.Ignored → s' = s) ∧
      (s.quitting = true → s'.quitting = true) ∧
      (s.respond e).2 = s'.quitting := by
  intro s s' d d'
  have h : s.Orderly := (orderly_start settings options k draws).run acts
  have htold : Told s s' := told_handle h.placed e
  refine ⟨htold.exchange_of_text_eq, ?_, fun he _ => text_handle_of_ne he, focus_handle_ne_iff,
    fun he => (handle_of_moves_focus he).2, ?_, fun hq => quitting_handle hq e, rfl⟩
  · intro ht hroom
    have hout := htold.outgoing_of_text_ne ht
    have hrevision : d'.revision = d.revision.next := congrArg Outgoing.revision hout
    have hissued : d'.issued = d.issued + s'.form.readiness.request?.toList.length :=
      congrArg Outgoing.issued hout
    refine ⟨?_, h.counted hroom, ?_, ?_⟩
    · rw [hrevision, Revision.number_next hroom]
    · rintro ⟨request, hr⟩
      rw [hissued, hr]
      rfl
    · intro hr
      cases hreadiness : s'.form.readiness with
      | ready request => exact absurd hreadiness (hr request)
      | _ => rw [hissued, hreadiness]; rfl
  · intro he
    show s.handle e = s
    rw [handle_eq, Event.command?_of_ignored he]
    rfl

/-- Two residuals have been entered, and the focus has gone back to the empty argument field. -/
def lacksArgument : List Act :=
  [.setInputs ⟨"01".toList, "11".toList, []⟩, .event (.key { key := .backTab })]

/-- The digit that is typed there makes the form ready, and the one call goes out. -/
theorem event_evaluates_changed_texts_last_digit :
    let s := plain.run (fun _ => Request.reconstruct) lacksArgument
    let s' := (s.respond (.key { key := .char '0' })).1
    s'.form.text .argument ≠ s.form.text .argument ∧
      s.exchange.dispatcher.revision.number < Revision.greatest.number ∧
      s'.form.readiness = .ready ⟨"01".toList, "11".toList, "0".toList⟩ ∧
      s'.exchange.dispatcher.revision.number = s.exchange.dispatcher.revision.number + 1 ∧
      s'.exchange.dispatcher.issued = s.exchange.dispatcher.issued + 1 ∧
      s'.form.cursor .zero = s.form.cursor .zero := by
  intro s s'
  have htext : s'.form.text .argument ≠ s.form.text .argument := by decide +kernel
  have hroom : s.exchange.dispatcher.revision.number < Revision.greatest.number := by
    decide +kernel
  have hready : s'.form.readiness = .ready ⟨"01".toList, "11".toList, "0".toList⟩ := by
    decide +kernel
  have hfocus : Slot.zero ≠ s.focus := by decide +kernel
  obtain ⟨-, hchanged, hothers, -⟩ := event_evaluates_changed_texts (fun _ => Request.reconstruct)
    {} {} 3 (fun _ => { value := fun _ => false, choice := 0 }) lacksArgument
    (.key { key := .char '0' })
  obtain ⟨hrevision, -, hissued, -⟩ := hchanged ⟨.argument, htext⟩ hroom
  have hdraws : ¬ Event.DrawsSample (.key { key := .char '0' }) := by
    rw [← Event.command?_eq_fillSample_iff]
    rintro ⟨⟩
  exact ⟨htext, hroom, hready, hrevision, hissued ⟨_, hready⟩, (hothers hdraws .zero hfocus).2⟩

end Session
end ResidualForm
