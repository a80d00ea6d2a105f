import ResidualForm.Proofs.Field.Run

/-!
# ResidualForm.Proofs.Form.Run

The form under any sequence of edits and moves, of one field or of all at once.

* `run_eq` — each field goes its own way: it is where the acts on it alone would have brought it.
* `counter_within_limit` — hence no field ever shows more clusters than its limit.
-/

namespace ResidualForm

def Request.text (r : Request) : Slot → List Char
  | .zero => r.zero
  | .one => r.one
  | .argument => r.argument

namespace Form

inductive Act where
  | edit (slot : Slot) (e : Edit)
  | move (slot : Slot) (m : Motion)
  | replaceAll (texts : Request)
  deriving DecidableEq, Repr

def step (f : Form) : Act → Form
  | .edit slot e => (f.edit slot e).getD f
  | .move slot m => f.move slot m
  | .replaceAll texts => (f.replaceAll texts.zero texts.one texts.argument).getD f

def run (f : Form) (acts : List Act) : Form :=
  acts.foldl step f

/-- What an act on the form means to one of its fields. -/
def Act.on (slot : Slot) : Act → List LineAct
  | .edit s e => if s = slot then [.edit e] else []
  | .move s m => if s = slot then [.move m] else []
  | .replaceAll texts => [.edit (.replace (texts.text slot))]

theorem step_eq (f : Form) (act : Act) :
    f.step act =
      { zero := f.zero.run (act.on .zero)
        one := f.one.run (act.on .one)
        argument := f.argument.run (act.on .argument)
        settings := f.settings } := by
  cases act with
  | edit slot e =>
    cases slot with
    | zero =>
      rw [step, Form.edit]
      cases h : f.zero.edit e <;>
        simp [Act.on, ResidualField.run, ArgumentField.run, LineAct.apply, h]
    | one =>
      rw [step, Form.edit]
      cases h : f.one.edit e <;>
        simp [Act.on, ResidualField.run, ArgumentField.run, LineAct.apply, h]
    | argument =>
      rw [step, Form.edit]
      cases h : f.argument.edit e <;>
        simp [Act.on, ResidualField.run, ArgumentField.run, LineAct.apply, h]
  | move slot m => cases slot <;> rfl
  | replaceAll texts =>
    rw [step, Form.replaceAll]
    cases hz : f.zero.edit (.replace texts.zero) <;> cases ho : f.one.edit (.replace texts.one) <;>
      cases ha : f.argument.edit (.replace texts.argument) <;>
      simp [Act.on, Request.text, ResidualField.run, ArgumentField.run, LineAct.apply, hz, ho, ha]

/-- The fields do not interfere with each other. -/
theorem run_eq (f : Form) (acts : List Act) :
    f.run acts =
      { zero := f.zero.run (acts.flatMap (Act.on .zero))
        one := f.one.run (acts.flatMap (Act.on .one))
        argument := f.argument.run (acts.flatMap (Act.on .argument))
        settings := f.settings } := by
  induction acts generalizing f with
  | nil => rfl
  | cons act acts ih =>
    have hrun := ih (f.step act)
    rw [step_eq] at hrun
    rw [run, List.foldl_cons, ← run, step_eq, hrun]
    simp only [List.flatMap_cons, ResidualField.run, ArgumentField.run, List.foldl_append]

theorem Placed.step {f : Form} (h : f.Placed) (act : Act) : (f.step act).Placed := by
  cases act with
  | edit slot e =>
    rw [Form.step]
    cases he : f.edit slot e with
    | none => exact h
    | some f' => exact (edited_of_edit h he).placed
  | move slot m => exact h.move slot m
  | replaceAll texts =>
    rw [Form.step]
    cases hr : f.replaceAll texts.zero texts.one texts.argument with
    | none => exact h
    | some f' => exact (edited_of_replaceAll h hr).placed

theorem Placed.run {f : Form} (h : f.Placed) (acts : List Act) : (f.run acts).Placed := by
  induction acts generalizing f with
  | nil => exact h
  | cons act acts ih => exact ih (h.step act)

/-- What every form has that began with the given settings. -/
structure Sound (s : FormSettings) (f : Form) : Prop where
  zero : f.zero.Fits s.clamp.residualLimit
  one : f.one.Fits s.clamp.residualLimit
  argument : f.argument.Single
  settings : f.settings = s.clamp

theorem max_clamp (s : FormSettings) : max s.clamp.residualLimit 1 = s.clamp.residualLimit := by
  simp only [FormSettings.clamp, greatestResidualLength]
  omega

theorem sound_ofSettings (s : FormSettings) : Sound s (ofSettings s) := by
  have h := ResidualField.fits_ofLimit s.clamp.residualLimit
  rw [max_clamp] at h
  exact ⟨h, h, ArgumentField.single_empty, rfl⟩

theorem Sound.run {s : FormSettings} {f : Form} (h : f.Sound s) (acts : List Act) :
    (f.run acts).Sound s := by
  rw [run_eq]
  exact ⟨h.zero.run _, h.one.run _, h.argument.run _, h.settings⟩

end Form

/-- In every state that a residual field can reach, it has no more clusters than its limit: wherever
the cursor stands, an insertion adds a cluster for each character at most, and a deletion takes one
away at least. So the counters of a form never read above the limit beside them. -/
theorem counter_within_limit :
    (∀ (limit : Nat) (acts : List LineAct),
      let f := (ResidualField.ofLimit limit).run acts
      f.limit = max limit 1 ∧ f.size ≤ f.limit ∧
        (∀ cursor c, (Draft.insert { f.draft with cursor } c).size ≤ f.size + 1) ∧
        (∀ cursor added, (Draft.paste { f.draft with cursor } added).size ≤ f.size + added.length) ∧
        (∀ f', f.edit .backspace = some f' → f'.size < f.size) ∧
        ∀ f', f.edit .delete = some f' → f'.size < f.size) ∧
    ∀ (s : FormSettings) (acts : List Form.Act),
      let f := (Form.ofSettings s).run acts
      f.zero.size ≤ f.settings.residualLimit ∧ f.one.size ≤ f.settings.residualLimit := by
  constructor
  · intro limit acts f
    have h : f.Fits (max limit 1) := (ResidualField.fits_ofLimit limit).run acts
    refine ⟨h.limit_eq, h.limit_eq ▸ h.size_le, ?_, ?_, ?_, ?_⟩
    · exact fun cursor c => Draft.size_insert_le _ c
    · exact fun cursor added => Draft.size_paste_le _ added
    · intro f' hf
      obtain ⟨d, hd, rfl⟩ := Option.map_eq_some_iff.1 hf
      exact Draft.size_lt_of_backspace h.placed hd
    · intro f' hf
      obtain ⟨d, hd, rfl⟩ := Option.map_eq_some_iff.1 hf
      exact Draft.size_lt_of_delete hd
  · intro s acts f
    have h : f.Sound s := (Form.sound_ofSettings s).run acts
    rw [h.settings]
    exact ⟨h.zero.size_le, h.one.size_le⟩

/-- A flag put before three others pairs with the first of them, and the third with the second: no
cluster is added. Two flags go with the next one that is deleted. -/
theorem counter_within_limit_flags :
    let f := (ResidualField.ofLimit 3).run
      [.edit (.paste "🇩🇪🇫".toList), .move .toStart, .edit (.insert '🇺')]
    f.size = 2 ∧ f.size ≤ f.limit ∧
      ∃ f', f.edit .delete = some f' ∧ f'.text = "🇺🇩".toList ∧ f'.size < f.size := by
  intro f
  have hsize : f.size = 2 := by decide +kernel
  have hdelete : f.edit .delete = some { draft := ⟨"🇺🇩".toList, 1⟩, limit := 3 } := by
    decide +kernel
  obtain ⟨-, hle, -, -, -, hdel⟩ := counter_within_limit.1 3
    [.edit (.paste "🇩🇪🇫".toList), .move .toStart, .edit (.insert '🇺')]
  exact ⟨hsize, hle, _, hdelete, rfl, hdel _ hdelete⟩

end ResidualForm
