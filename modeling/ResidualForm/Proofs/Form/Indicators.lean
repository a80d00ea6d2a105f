import ResidualForm.Proofs.Form.Readiness

/-!
# ResidualForm.Proofs.Form.Indicators

The marks beside the fields, and the rule that lets a request out. They are told separately: a mark
looks at its field, and at the policy if it is the second one; the rule goes through all fields in
turn and does not know of the policy.

* `consistent_iff` — what the mark beside the second residual says.
* `Sound.ready_iff_of_filled` — what the rule comes to where no field is empty.
* `Sound.indicators_iff` — what all three marks say together.
* `ready_iff_indicators` — in every state that a form can reach, the rule lets a request out just if
  all marks are good; where the policy passes the second residual over, that field must be good too.
-/

namespace ResidualForm

theorem ArgumentField.Single.valid {f : ArgumentField} (h : f.Single) : f.valid = true := by
  rw [ArgumentField.valid, digitFault?_eq_none_iff.2 ⟨h.length_le, h.isDigit⟩]
  rfl

namespace Form

variable {s : FormSettings} {f : Form}

/-- Every policy compares the sizes and looks at the first residual; one looks at the second too. -/
theorem consistent_iff :
    f.consistent = true ↔
      f.zero.valid = true ∧ (f.settings.policy = .both → f.one.valid = true) ∧
        f.zero.size = f.one.size := by
  rw [consistent]
  cases f.settings.policy <;> simp [Policy.consistent, and_assoc]

theorem Sound.filled_of_ready (h : f.Sound s) {request : Request}
    (hr : f.readiness = .ready request) (slot : Slot) : f.text slot ≠ [] := by
  rw [h.readiness_eq, verdict_eq_ready_iff] at hr
  obtain ⟨-, hzero, hone, -, hargument, -⟩ := hr
  cases slot with
  | zero => exact List.ne_nil_of_length_pos hzero.1
  | one => exact List.ne_nil_of_length_pos hone.1
  | argument => exact hargument

/-- Where no field is empty, a form is held for one of four reasons. -/
theorem Sound.ready_iff_of_filled (h : f.Sound s) (hne : ∀ slot, f.text slot ≠ []) :
    (∃ request, f.readiness = .ready request) ↔
      f.zero.valid = true ∧ f.one.valid = true ∧ f.zero.size = f.one.size ∧
        f.outOfBounds = false := by
  have hfilled : ¬ (f.zero.text.isEmpty || f.one.text.isEmpty || f.argument.text.isEmpty) = true := by
    have hz := hne .zero
    have ho := hne .one
    have ha := hne .argument
    simp_all [text]
  have hvalue := h.argument.value?_eq (hne .argument)
  rw [outOfBounds, readiness, if_neg hfilled, hvalue]
  by_cases hz : f.zero.valid = true
  · by_cases ho : f.one.valid = true
    · by_cases hs : f.zero.size = f.one.size
      · cases hb : f.settings.boundArgument &&
            decide (f.zero.greatestArgument < Text.decimalValue f.argument.text) with
        | true => simp [hz, ho, hs, hb]
        | false => simp [hz, ho, hs, hb]
      · simp [hz, ho, hs]
    · simp [hz, ho]
  · simp [hz]

/-- The argument field holds a digit or nothing, so its mark only tells of the bound. -/
theorem Sound.indicators_iff (h : f.Sound s) :
    (∀ slot, f.indicator slot = true) ↔
      f.zero.valid = true ∧ (s.policy = .both → f.one.valid = true) ∧ f.zero.size = f.one.size ∧
        f.outOfBounds = false := by
  have hpolicy : f.settings.policy = s.policy := by
    rw [h.settings]
    rfl
  have hargument : f.indicator .argument = true ↔ f.outOfBounds = false := by
    simp [indicator, h.argument.valid]
  constructor
  · intro hall
    obtain ⟨hzero, hone, hsize⟩ := consistent_iff.1 (hall .one)
    exact ⟨hzero, hpolicy ▸ hone, hsize, hargument.1 (hall .argument)⟩
  · rintro ⟨hzero, hone, hsize, hbound⟩ slot
    cases slot with
    | zero => exact hzero
    | one => exact consistent_iff.2 ⟨hzero, hpolicy ▸ hone, hsize⟩
    | argument => exact hargument.2 hbound

/-- In every state that a form can reach, and under all settings, all marks are good if the form is
ready; and if no field is empty, it is ready just if they are, and if the second residual is good
where the policy does not look at it. -/
theorem ready_iff_indicators (s : FormSettings) (acts : List Act) :
    let f := (ofSettings s).run acts
    ((∃ request, f.readiness = .ready request) → ∀ slot, f.indicator slot = true) ∧
      ((∀ slot, f.text slot ≠ []) →
        ((∃ request, f.readiness = .ready request) ↔
          (∀ slot, f.indicator slot = true) ∧
            (s.policy = .zeroOnly → f.one.valid = true))) := by
  intro f
  have h : f.Sound s := (sound_ofSettings s).run acts
  constructor
  · rintro ⟨request, hr⟩
    obtain ⟨hzero, hone, hsize, hbound⟩ :=
      (h.ready_iff_of_filled (h.filled_of_ready hr)).1 ⟨request, hr⟩
    exact h.indicators_iff.2 ⟨hzero, fun _ => hone, hsize, hbound⟩
  · intro hne
    rw [h.ready_iff_of_filled hne, h.indicators_iff]
    constructor
    · rintro ⟨hzero, hone, hsize, hbound⟩
      exact ⟨⟨hzero, fun _ => hone, hsize, hbound⟩, fun _ => hone⟩
    · rintro ⟨⟨hzero, hboth, hsize, hbound⟩, hzeroOnly⟩
      refine ⟨hzero, ?_, hsize, hbound⟩
      cases hp : s.policy with
      | both => exact hboth hp
      | zeroOnly => exact hzeroOnly hp

/-- A letter gets into the second residual, which the policy passes over. -/
def lettered : List Act :=
  [.replaceAll ⟨"01".toList, "1x".toList, "2".toList⟩]

/-- All marks are good, but the form is held until the letter is a digit. -/
theorem ready_iff_indicators_lettered :
    let settings : FormSettings := { policy := .zeroOnly }
    let f := (ofSettings settings).run lettered
    let g := (ofSettings settings).run
      (lettered ++ [.edit .one .backspace, .edit .one (.insert '0')])
    (∀ slot, f.text slot ≠ []) ∧ (∀ slot, f.indicator slot = true) ∧
      f.readiness = .hold .oneFormat ∧ f.one.valid = false ∧
      (∀ slot, g.text slot ≠ []) ∧ g.readiness = .ready ⟨"01".toList, "10".toList, "2".toList⟩ ∧
      (∀ slot, g.indicator slot = true) ∧ g.one.valid = true := by
  intro settings f g
  have hf : ∀ slot, f.text slot ≠ [] := by
    intro slot
    cases slot <;> decide +kernel
  have hmarks : ∀ slot, f.indicator slot = true := by
    intro slot
    cases slot <;> decide +kernel
  have hheld : f.readiness = .hold .oneFormat := by decide +kernel
  have hone : f.one.valid = false := by
    by_contra hvalid
    obtain ⟨request, hr⟩ := ((ready_iff_indicators settings lettered).2 hf).2
      ⟨hmarks, fun _ => Bool.eq_true_of_not_eq_false hvalid⟩
    rw [hheld] at hr
    cases hr
  have hg : ∀ slot, g.text slot ≠ [] := by
    intro slot
    cases slot <;> decide +kernel
  have hready : g.readiness = .ready ⟨"01".toList, "10".toList, "2".toList⟩ := by decide +kernel
  obtain ⟨hgood, hvalid⟩ := ((ready_iff_indicators settings _).2 hg).1 ⟨_, hready⟩
  exact ⟨hf, hmarks, hheld, hone, hg, hready, hgood, hvalid rfl⟩

end Form
end ResidualForm
