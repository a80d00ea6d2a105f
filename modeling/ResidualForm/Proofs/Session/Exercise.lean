import ResidualForm.Proofs.Form.Answerable
import ResidualForm.Proofs.Sample
import ResidualForm.Proofs.Session.Run

/-!
# ResidualForm.Proofs.Session.Exercise

An exercise that is put into the form. It is always there, its texts fit as they are, the form is
ready, and the service would give the function back.

* `Continues` — how a session goes on: its form is brought on by acts of the form, and the number of
  arguments wished for and the draws are the same.
* `Form.Sound.text_step_replaceAll` — texts that fit are put in as they are.
* `form_setInputs_drawnFrom`, `reported_setInputs` — what an exercise makes of the form, and what is
  called out.
* `fillSample_solvable` — all of it, in every state that a session can reach.
-/

namespace ResidualForm

namespace Form

variable {settings : FormSettings} {f : Form}

theorem Sound.step (h : f.Sound settings) (act : Act) : (f.step act).Sound settings :=
  h.run [act]

/-- Residuals that are not too long and a digit are put in as they stand. -/
theorem Sound.text_step_replaceAll (h : f.Sound settings) {texts : Request} {c : Char}
    (hzero : texts.zero.length ≤ settings.clamp.residualLimit)
    (hone : texts.one.length ≤ settings.clamp.residualLimit)
    (hc : texts.argument = [c]) (hdigit : c.isDigit = true) (slot : Slot) :
    (f.step (.replaceAll texts)).text slot = texts.text slot := by
  rw [← h.zero.limit_eq] at hzero
  rw [← h.one.limit_eq] at hone
  rw [step_eq]
  cases slot with
  | zero => exact (f.zero.text_replace texts.zero).trans (List.take_of_length_le hzero)
  | one => exact (f.one.text_replace texts.one).trans (List.take_of_length_le hone)
  | argument =>
    refine (f.argument.text_replace texts.argument).trans ?_
    rw [Request.text, hc]
    simp [hdigit]

end Form

namespace Session

/-- `s'` has come of `s`: its form by acts of the form, and the rest of what an exercise depends on
not at all. -/
structure Continues (s s' : Session) : Prop where
  form : ∃ acts, s'.form = s.form.run acts
  sampleArguments : s'.sampleArguments = s.sampleArguments
  draws : s'.draws = s.draws

variable {service : Service} {s s' s'' : Session}

theorem Continues.refl (s : Session) : s.Continues s :=
  ⟨⟨[], rfl⟩, rfl, rfl⟩

theorem Continues.trans (h : s.Continues s') (h' : s'.Continues s'') : s.Continues s'' := by
  obtain ⟨acts, hacts⟩ := h.form
  obtain ⟨more, hmore⟩ := h'.form
  refine ⟨⟨acts ++ more, ?_⟩, h'.sampleArguments.trans h.sampleArguments, h'.draws.trans h.draws⟩
  rw [hmore, hacts, Form.run, Form.run, Form.run, List.foldl_append]

theorem Continues.sound {settings : FormSettings} (h : s.Continues s')
    (hs : s.form.Sound settings) : s'.form.Sound settings := by
  obtain ⟨acts, hacts⟩ := h.form
  exact hacts ▸ hs.run acts

theorem Continues.placed (h : s.Continues s') (hp : s.form.Placed) : s'.form.Placed := by
  obtain ⟨acts, hacts⟩ := h.form
  exact hacts ▸ hp.run acts

/-- A changed form is told to the exchange, and nothing else changes. -/
theorem adopt_fst_eq (s : Session) (changed : Option Form) :
    (s.adopt changed).1 =
      { s with form := changed.getD s.form, exchange := (s.adopt changed).1.exchange } := by
  cases changed <;> rfl

theorem continues_adopt (s : Session) {changed : Option Form} (act : Form.Act)
    (hstep : changed.getD s.form = s.form.step act) : s.Continues (s.adopt changed).1 := by
  rw [adopt_fst_eq]
  exact ⟨⟨[act], hstep⟩, rfl, rfl⟩

theorem continues_edit (s : Session) (e : Edit) : s.Continues (s.edit e).1 :=
  continues_adopt s (.edit s.focus e) rfl

theorem continues_setInputs (s : Session) (texts : Request) : s.Continues (s.setInputs texts).1 :=
  continues_adopt s (.replaceAll texts) rfl

theorem continues_move (s : Session) (m : Motion) : s.Continues (s.move m) :=
  ⟨⟨[.move s.focus m], rfl⟩, rfl, rfl⟩

theorem fillSample_eq {sample : Sample}
    (h : Sample.ofDraw s.exerciseArguments (s.draws s.drawn) = .ok sample) :
    s.fillSample =
      { s with drawn := s.drawn + 1, status := some sample.caption }.setInputs sample.request := by
  rw [fillSample, h]

theorem continues_fillSample (s : Session) : s.Continues s.fillSample.1 := by
  obtain ⟨sample, hsample, -⟩ := Sample.exists_drawnFrom s.exerciseArguments (s.draws s.drawn)
  rw [fillSample_eq hsample]
  obtain ⟨hform, hk, hdraws⟩ := continues_setInputs
    { s with drawn := s.drawn + 1, status := some sample.caption } sample.request
  exact ⟨hform, hk, hdraws⟩

theorem continues_perform (s : Session) (c : Command) : s.Continues (s.perform c) := by
  cases c with
  | edit e => exact continues_edit s e
  | fillSample => exact continues_fillSample s
  | move m => exact continues_move s m
  | _ => exact ⟨⟨[], rfl⟩, rfl, rfl⟩

theorem continues_step (service : Service) (s : Session) (act : Act) :
    s.Continues (s.step service act) := by
  cases act with
  | edit e => exact continues_edit s e
  | setInputs texts => exact continues_setInputs s texts
  | fillSample => exact continues_fillSample s
  | move m => exact continues_move s m
  | event e =>
    show s.Continues (s.handle e)
    rw [handle_eq]
    cases e.command? with
    | none => exact .refl s
    | some c => exact continues_perform s c
  | answer n =>
    rw [step]
    cases s.exchange.calls[n]? with
    | none => exact .refl s
    | some posted => exact ⟨⟨[], rfl⟩, rfl, rfl⟩
  | _ => exact ⟨⟨[], rfl⟩, rfl, rfl⟩

theorem continues_run (service : Service) (s : Session) (acts : List Act) :
    s.Continues (s.run service acts) := by
  induction acts generalizing s with
  | nil => exact .refl s
  | cons act acts ih => exact (continues_step service s act).trans (ih _)

/-- Three texts that make a form ready are called out, unless they are the ones that it had. -/
theorem reported_setInputs {texts request : Request} (hp : s.form.Placed)
    (hr : (s.setInputs texts).1.form.readiness = .ready request) :
    ((∃ slot, (s.setInputs texts).1.form.text slot ≠ s.form.text slot) →
        (s.setInputs texts).2 =
          some (.issued { revision := s.exchange.dispatcher.revision.next, request })) ∧
      ((∀ slot, (s.setInputs texts).1.form.text slot = s.form.text slot) →
        (s.setInputs texts).2 = none ∧ (s.setInputs texts).1.exchange = s.exchange) := by
  rw [setInputs] at hr ⊢
  cases hc : s.form.replaceAll texts.zero texts.one texts.argument with
  | none => exact ⟨fun ⟨slot, hne⟩ => absurd rfl hne, fun _ => ⟨rfl, rfl⟩⟩
  | some form =>
    rw [hc] at hr
    refine ⟨fun _ => ?_, fun hsame => ?_⟩
    · have hready : form.readiness = .ready request := hr
      show some (s.exchange.submit form.readiness).2 = _
      rw [hready]
      rfl
    · exact absurd (Form.request_eq_iff.2 hsame) (Form.edited_of_replaceAll hp hc).request_ne

variable {settings : FormSettings}

theorem exerciseArguments_eq (h : s.form.Sound settings) :
    s.exerciseArguments =
      min s.sampleArguments (argumentsForLength settings.clamp.residualLimit) := by
  rw [exerciseArguments, h.settings]

/-- An exercise of no more arguments than fit is put in as it is, and makes the form ready. -/
theorem form_setInputs_drawnFrom (h : s.form.Sound settings) {draw : Draw} {n : Nat}
    {sample : Sample} (hs : sample.DrawnFrom draw n) (hn : n ≤ 10)
    (hfit : n ≤ argumentsForLength settings.clamp.residualLimit) :
    (∀ slot, (s.setInputs sample.request).1.form.text slot = sample.request.text slot) ∧
      (s.setInputs sample.request).1.form.readiness = .ready sample.request := by
  have hpos : 0 < settings.clamp.residualLimit := by
    rw [← Form.max_clamp]
    exact Nat.le_max_right _ _
  have hlimit := two_pow_le_of_argumentsForLength hpos hfit
  have hzero : sample.request.zero.length ≤ settings.clamp.residualLimit := by
    rw [Sample.request, List.length_map, hs.length_residual hs.residual_zero]
    exact hlimit
  have hone : sample.request.one.length ≤ settings.clamp.residualLimit := by
    rw [Sample.request, List.length_map, hs.length_residual hs.residual_one]
    exact hlimit
  obtain ⟨c, hc, hdigit, -⟩ := hs.exists_digit hn
  have hform : (s.setInputs sample.request).1.form = s.form.step (.replaceAll sample.request) :=
    congrArg Session.form (s.adopt_fst_eq _)
  have htext := h.text_step_replaceAll hzero hone hc hdigit
  have hrequest : (s.form.step (.replaceAll sample.request)).request = sample.request := by
    rw [Form.request, Request.mk.injEq]
    exact ⟨htext .zero, htext .one, htext .argument⟩
  have hresiduals := hs.residuals hn
  rw [← hrequest] at hc hresiduals
  have hne : (s.form.step (.replaceAll sample.request)).request.argument ≠ [] :=
    hc ▸ List.cons_ne_nil _ _
  have hready := (h.step (.replaceAll sample.request)).ready_of_residuals hne hresiduals
  rw [hform, hready, hrequest]
  exact ⟨htext, rfl⟩

/-- In every state that a session can reach, under all settings, and whatever is drawn, there is an
exercise: of as many arguments as are wished for, as far as their residuals fit and there are one to
five. Its residuals and its argument number are put into the form as they are; the form is ready, and
the service would answer its request with the function that was drawn. It is called out if a text is
another one than before, and else the exchange is left alone. -/
theorem fillSample_solvable (service : Service) (settings : FormSettings) (options : DisplayOptions)
    (k : Nat) (draws : Nat → Draw) (acts : List Act) :
    let s := (start settings options k draws).run service acts
    let s' := s.fillSample.1
    let limit := min (max settings.residualLimit 1) 16
    let n := min (max (min k (limit.log2 + 1)) 1) 5
    ∃ sample : Sample,
      Sample.ofDraw s.exerciseArguments (draws s.drawn) = .ok sample ∧
        sample.DrawnFrom (draws s.drawn) n ∧ s'.status = some sample.caption ∧
        s'.form.text .zero = sample.zero.map symbol ∧ s'.form.text .one = sample.one.map symbol ∧
        s'.form.text .argument = (Nat.repr sample.argument).toList ∧
        sample.zero.length = 2 ^ (n - 1) ∧ sample.one.length = 2 ^ (n - 1) ∧
        s'.form.readiness = .ready sample.request ∧
        sample.request.reconstruct = .function (String.ofList sample.function.digits) ∧
        ((∃ slot, s'.form.text slot ≠ s.form.text slot) →
          s.fillSample.2 = some (.issued ⟨s.exchange.dispatcher.revision.next, sample.request⟩)) ∧
        ((∀ slot, s'.form.text slot = s.form.text slot) →
          s.fillSample.2 = none ∧ s'.exchange = s.exchange) := by
  intro s s' limit n
  have hcontinues := continues_run service (start settings options k draws) acts
  have hsound : s.form.Sound settings := hcontinues.sound (Form.sound_ofSettings settings)
  have hplaced : s.form.Placed := hcontinues.placed (Form.placed_ofSettings settings)
  have hdraws : s.draws = draws := hcontinues.draws
  have hfit : argumentsForLength settings.clamp.residualLimit = limit.log2 + 1 := by
    rw [argumentsForLength, Form.max_clamp]
    rfl
  have harguments : s.exerciseArguments = min k (limit.log2 + 1) := by
    rw [exerciseArguments_eq hsound, hfit, hcontinues.sampleArguments]
    rfl
  obtain ⟨sample, hsample, hdrawn⟩ := Sample.exists_drawnFrom s.exerciseArguments (s.draws s.drawn)
  rw [harguments, mostSampleArguments] at hdrawn
  have hn : n ≤ 10 := Nat.le_trans (Nat.min_le_right _ _) (by decide)
  let drawn : Session := { s with drawn := s.drawn + 1, status := some sample.caption }
  have hfill : s.fillSample = drawn.setInputs sample.request := fillSample_eq hsample
  obtain ⟨htext, hready⟩ := form_setInputs_drawnFrom (s := drawn) hsound hdrawn hn (by omega)
  obtain ⟨hissued, hnone⟩ := reported_setInputs (s := drawn) hplaced hready
  have hstatus : (drawn.setInputs sample.request).1.status = some sample.caption :=
    congrArg Session.status (drawn.adopt_fst_eq _)
  rw [← hfill] at htext hready hissued hnone hstatus
  rw [hdraws] at hsample hdrawn
  exact ⟨sample, hsample, hdrawn, hstatus, htext .zero, htext .one, htext .argument,
    hdrawn.length_residual hdrawn.residual_zero, hdrawn.length_residual hdrawn.residual_one, hready,
    hdrawn.reconstruct hn, hissued, hnone⟩

/-- A session in whose form there is room for three characters, and which always draws the same. -/
def narrow : Session :=
  start { residualLimit := 3, policy := .zeroOnly } {} 4294967295
    fun _ => { value := fun row => row == 1, choice := 3 }

/-- Three characters are room for the residuals of two arguments, however many are wished for. A
second exercise like the first changes nothing, and nothing is called out. -/
theorem fillSample_solvable_narrow :
    narrow.exerciseArguments = 2 ∧
      narrow.fillSample.1.form.readiness = .ready ⟨"01".toList, "00".toList, "1".toList⟩ ∧
      narrow.fillSample.2 =
        some (.issued ⟨⟨1, by decide⟩, "01".toList, "00".toList, "1".toList⟩) ∧
      narrow.fillSample.1.fillSample.2 = none ∧
      narrow.fillSample.1.fillSample.1.exchange = narrow.fillSample.1.exchange := by
  have hready : narrow.fillSample.1.form.readiness =
      .ready ⟨"01".toList, "00".toList, "1".toList⟩ := by
    decide +kernel
  have hchanged : narrow.fillSample.1.form.text .zero ≠ narrow.form.text .zero := by
    decide +kernel
  have hsame : ∀ slot, narrow.fillSample.1.fillSample.1.form.text slot =
      narrow.fillSample.1.form.text slot := by
    intro slot
    cases slot <;> decide +kernel
  obtain ⟨sample, -, -, -, -, -, -, -, -, hasked, -, hissued, -⟩ :=
    fillSample_solvable (fun _ => Request.reconstruct) { residualLimit := 3, policy := .zeroOnly } {}
      4294967295 narrow.draws []
  obtain ⟨-, -, -, -, -, -, -, -, -, -, -, -, hnone⟩ :=
    fillSample_solvable (fun _ => Request.reconstruct) { residualLimit := 3, policy := .zeroOnly } {}
      4294967295 narrow.draws [.fillSample]
  have hrequest : sample.request = ⟨"01".toList, "00".toList, "1".toList⟩ :=
    Readiness.ready.inj (hasked.symm.trans hready)
  rw [hrequest] at hissued
  exact ⟨by decide +kernel, hready, hissued ⟨.zero, hchanged⟩, hnone hsame⟩

end Session
end ResidualForm
