import Mathlib.Data.List.Forall2
import ResidualForm.Proofs.Exchange.Standing
import ResidualForm.Proofs.Form.Typing
import ResidualForm.Proofs.Session.Exercise

/-!
# ResidualForm.Proofs.Session.Typing

A text that is pasted, and the same text typed key by key. Typing evaluates the form at every key,
and pasting evaluates it once; yet nothing is left of the evaluations on the way but their number.

* `Entered`                — what is known of a session into whose focused field edits have put text:
  the standing of its exchange is that of one evaluation, of the last form.
* `entered_run`            — it is known after a run in which the user enters text and answers arrive.
* `waits_run`              — a session waits for the answer to what its form holds, if for any.
* `typing_agrees_with_paste` — both ways lead to the same session, but for the counts of its exchange.
-/

namespace ResidualForm
namespace Session

/-- `s'` has come of `s` by edits of the focused field, which have only put text in. -/
structure Entered (s : Session) (edits : List Edit) (s' : Session) : Prop where
  rest : s' =
    { s with
      form := s.form.run (edits.map (Form.Act.edit s.focus))
      exchange := s'.exchange }
  /-- If any text went in, the exchange stands as if the last form had been the first change. -/
  standing :
    s'.form = s.form ∧ s'.exchange.standing = s.exchange.standing ∨
      s.form.Grown s.focus s'.form ∧
        s'.exchange.standing = s.exchange.standing.submit s'.form.readiness

variable {service : Service} {s s' s'' : Session} {edits more : List Edit}

theorem entered_of_exchange {x : Exchange} (h : x.standing = s.exchange.standing) :
    s.Entered [] { s with exchange := x } :=
  ⟨rfl, .inl ⟨rfl, h⟩⟩

theorem Entered.form_eq (h : s.Entered edits s') :
    s'.form = s.form.run (edits.map (Form.Act.edit s.focus)) := by
  rw [h.rest]

theorem Entered.focus_eq (h : s.Entered edits s') : s'.focus = s.focus := by
  rw [h.rest]

theorem Entered.trans (h : s.Entered edits s') (h' : s'.Entered more s'') :
    s.Entered (edits ++ more) s'' := by
  have hform := h'.form_eq
  rw [h.focus_eq, h.form_eq, Form.run, Form.run, ← List.foldl_append, ← List.map_append] at hform
  refine ⟨?_, ?_⟩
  · rw [Form.run, ← hform, h'.rest, h.rest]
  · have hs := h.standing
    have hs' := h'.standing
    rw [h.focus_eq] at hs'
    rcases hs with ⟨hsame, hkept⟩ | ⟨hgrown, hkept⟩ <;>
      rcases hs' with ⟨hsame', hkept'⟩ | ⟨hgrown', hkept'⟩
    · exact .inl ⟨hsame'.trans hsame, hkept'.trans hkept⟩
    · exact .inr ⟨hsame ▸ hgrown', hkept ▸ hkept'⟩
    · exact .inr ⟨hsame' ▸ hgrown, by rw [hkept', hkept, hsame']⟩
    · -- the form of the first part is the one whose evaluation leaves no trace
      refine .inr ⟨hgrown.trans hgrown', ?_⟩
      rw [hkept', hkept, Standing.submit_submit _ (hgrown.incomplete hgrown')]

theorem entered_edit (s : Session) {e : Edit} (hin : e.putsIn = true) :
    s.Entered [e] (s.edit e).1 := by
  rw [edit]
  cases he : s.form.edit s.focus e with
  | none =>
    have hform : s.form.run ([e].map (Form.Act.edit s.focus)) = s.form := congrArg (·.getD s.form) he
    refine ⟨?_, .inl ⟨rfl, rfl⟩⟩
    rw [hform]
    rfl
  | some form =>
    have hform : s.form.run ([e].map (Form.Act.edit s.focus)) = form := congrArg (·.getD s.form) he
    refine ⟨?_, .inr ⟨Form.grown_of_edit hin he, s.exchange.standing_submit _⟩⟩
    rw [hform]
    rfl

/-- An event that asks for an edit which puts text in. -/
def Act.Enters (act : Act) (e : Edit) : Prop :=
  ∃ event, act = .event event ∧ event.command? = some (.edit e) ∧ e.putsIn = true

theorem entered_step {act : Act} {e : Edit} (h : act.Enters e) :
    s.Entered [e] (s.step service act) := by
  obtain ⟨event, rfl, hcommand, hin⟩ := h
  rw [step, handle_eq, hcommand]
  exact entered_edit s hin

/-- The service has answered a call. The answer has not been taken in yet. -/
def Act.isAnswer : Act → Bool
  | .answer _ => true
  | _ => false

theorem entered_answer {act : Act} (h : act.isAnswer = true) :
    s.Entered [] (s.step service act) := by
  cases act with
  | answer n =>
    rw [step]
    split
    · exact entered_of_exchange rfl
    · exact entered_of_exchange (s.exchange.standing_answer _ _)
  | _ => cases h

theorem entered_run {acts : List Act}
    (h : List.Forall₂ Act.Enters (acts.filter fun act => !act.isAnswer) edits) :
    s.Entered edits (s.run service acts) := by
  induction acts generalizing s edits with
  | nil =>
    cases h
    exact entered_of_exchange rfl
  | cons act acts ih =>
    cases hanswer : act.isAnswer with
    | true =>
      rw [List.filter_cons_of_neg (by simp [hanswer])] at h
      exact (entered_answer hanswer).trans (ih h)
    | false =>
      rw [List.filter_cons_of_pos (by simp [hanswer])] at h
      cases h with
      | cons hact hrest => exact (entered_step hact).trans (ih hrest)

/-- It is the form that tells how the exchange stands after a text has been entered. -/
theorem Entered.standing_eq (h : s.Entered edits s') (h' : s.Entered more s'')
    (hform : s''.form = s'.form) : s''.exchange.standing = s'.exchange.standing := by
  rcases h.standing with ⟨hsame, hkept⟩ | ⟨hgrown, hkept⟩ <;>
    rcases h'.standing with ⟨hsame', hkept'⟩ | ⟨hgrown', hkept'⟩
  · rw [hkept', hkept]
  · exact absurd (hform.trans hsame) hgrown'.ne
  · exact absurd (hform.symm.trans hsame') hgrown.ne
  · rw [hkept', hkept, hform]

/-- In every state that a session can reach, the call that is awaited, if any, has asked for what the
form holds. -/
theorem waits_run (service : Service) (hp : s.form.Placed)
    (hw : s.exchange.Waits s.form.request) (acts : List Act) :
    (s.run service acts).exchange.Waits (s.run service acts).form.request := by
  induction acts generalizing s with
  | nil => exact hw
  | cons act acts ih =>
    rw [run_cons]
    cases effect_step service hp act with
    | quiet placed request readiness exchange =>
      apply ih placed
      rw [request, exchange]
      exact hw
    | edited form exchange =>
      apply ih form.placed
      rw [exchange]
      exact s.exchange.waits_submit fun _ hready => (Form.readiness_eq_ready hready).1
    | exchanged xact submits form exchange =>
      rw [← form] at hp
      apply ih hp
      rw [exchange, form]
      exact hw.step service submits

/-- The user types a character. -/
def Act.key (c : Char) : Act :=
  .event (.key { key := .char c })

theorem enters_key (c : Char) : (Act.key c).Enters (.insert c) :=
  ⟨_, rfl, rfl, rfl⟩

theorem entered_typed (service : Service) (s : Session) (text : List Char) :
    s.Entered (text.map Edit.insert) (s.run service (text.map Act.key)) := by
  apply entered_run
  have hkeys : (text.map Act.key).filter (fun act => !act.isAnswer) = text.map Act.key := by
    rw [List.filter_eq_self]
    intro act hact
    obtain ⟨c, -, rfl⟩ := List.mem_map.1 hact
    rfl
  rw [hkeys, List.forall₂_map_left_iff, List.forall₂_map_right_iff, List.forall₂_same]
  exact fun c _ => enters_key c

/-- There are no line ends in printable ASCII that would be left out. -/
theorem enters_paste {text : List Char} (h : Text.PrintableAscii text) :
    (Act.event (.paste text)).Enters (.paste text) := by
  have hfilter : (text.filter fun c => c ≠ '\r' && c ≠ '\n') = text := by
    rw [List.filter_eq_self]
    intro c hc
    have hprintable := h c hc
    by_contra hline
    simp only [Bool.and_eq_true, decide_eq_true_eq, not_and, Decidable.not_not] at hline
    by_cases hreturn : c = '\r'
    · rw [hreturn] at hprintable
      exact absurd hprintable (by decide)
    · rw [hline hreturn] at hprintable
      exact absurd hprintable (by decide)
  refine ⟨_, rfl, ?_, rfl⟩
  rw [Event.command?, hfilter]

/-- In every state that a session can reach, whose focused field holds printable ASCII, and for every
printable ASCII text: whether the text is pasted or typed, and whatever answers arrive meanwhile, to
be taken in later, comes to the same. The form with its cursors, the focus, and all else but the
exchange are the same; so are the output and the error, whether an answer is awaited, and the request
of the awaited call, which is the contents of the form. -/
theorem typing_agrees_with_paste (service : Service) (settings : FormSettings)
    (options : DisplayOptions) (k : Nat) (draws : Nat → Draw) (acts : List Act)
    (text : List Char) (pasting typing : List Act) :
    let s := (start settings options k draws).run service acts
    let pasted := s.run service pasting
    let typed := s.run service typing
    Text.PrintableAscii (s.form.text s.focus) → Text.PrintableAscii text →
    (pasting.filter fun act => !act.isAnswer) = [.event (.paste text)] →
    (typing.filter fun act => !act.isAnswer) = text.map Act.key →
      typed = { pasted with exchange := typed.exchange } ∧ typed.result = pasted.result ∧
        typed.loading = pasted.loading ∧
        typed.exchange.awaitedCall?.map Call.request =
          pasted.exchange.awaitedCall?.map Call.request ∧
        (pasted.loading = true →
          pasted.exchange.awaitedCall?.map Call.request = some pasted.form.request) := by
  intro s pasted typed hfield htext hpasting htyping
  have hplaced : s.form.Placed :=
    (continues_run service (start settings options k draws) acts).placed
      (Form.placed_ofSettings settings)
  have hpasted : s.Entered [.paste text] pasted := by
    apply entered_run
    rw [hpasting]
    exact .cons (enters_paste htext) .nil
  have htyped : s.Entered (text.map Edit.insert) typed := by
    apply entered_run
    rw [htyping, List.forall₂_map_left_iff, List.forall₂_map_right_iff, List.forall₂_same]
    exact fun c _ => enters_key c
  have hrun := Form.run_typed_eq_paste hplaced hfield htext
  have hform : typed.form = pasted.form := by
    rw [htyped.form_eq, hpasted.form_eq, hrun]
  have hstanding := hpasted.standing_eq htyped hform
  have hwaits : pasted.exchange.Waits pasted.form.request :=
    waits_run service hplaced
      (waits_run service (Form.placed_ofSettings settings) (Exchange.waits_empty _) acts) pasting
  refine ⟨?_, congrArg Standing.result hstanding, congrArg Standing.awaiting hstanding,
    congrArg Standing.request hstanding, hwaits⟩
  rw [hpasted.rest, htyped.rest, hrun]

/-- The result of a request is shown, and a digit has been taken out since. -/
def shortened : List Act :=
  [.setInputs ⟨"01".toList, "01".toList, "0".toList⟩, .answer 0, .tick, .edit .backspace]

/-- The first of two digits makes the form ready, and its call goes out and is answered; the second
makes the residual too long. Where both are pasted, there is no such call. -/
theorem typing_agrees_with_paste_in_passing :
    let s := plain.run (fun _ => Request.reconstruct) shortened
    let pasted := s.run (fun _ => Request.reconstruct) [.event (.paste "11".toList)]
    let typed := s.run (fun _ => Request.reconstruct) [.key '1', .answer 1, .key '1']
    Text.PrintableAscii (s.form.text s.focus) ∧ Text.PrintableAscii "11".toList ∧
      pasted.exchange.dispatcher.issued = 1 ∧ typed.exchange.dispatcher.issued = 2 ∧
      pasted.result.view = .output "0011" ∧ pasted.loading = false ∧
      typed = { pasted with exchange := typed.exchange } ∧ typed.result = pasted.result ∧
      typed.loading = pasted.loading := by
  intro s pasted typed
  have hfield : Text.PrintableAscii (s.form.text s.focus) := by decide +kernel
  have htext : Text.PrintableAscii "11".toList := by decide +kernel
  obtain ⟨hrest, hresult, hloading, -⟩ := typing_agrees_with_paste (fun _ => Request.reconstruct)
    {} {} 3 (fun _ => { value := fun _ => false, choice := 0 }) shortened "11".toList
    [.event (.paste "11".toList)] [.key '1', .answer 1, .key '1'] hfield htext rfl rfl
  exact ⟨hfield, htext, by decide +kernel, by decide +kernel, by decide +kernel, by decide +kernel,
    hrest, hresult, hloading⟩

end Session
end ResidualForm
