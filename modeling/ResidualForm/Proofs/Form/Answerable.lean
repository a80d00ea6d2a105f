import ResidualForm.Proofs.Form.Readiness
import ResidualForm.Proofs.Service

/-!
# ResidualForm.Proofs.Form.Answerable

Two rules look at the texts of a form: its own, and that of the service, which reads binary digits
and compares the argument number with the exponent of a length. The second one is the stricter.

* `Residuals.argument_le` — an exponent is never greater than the power, so the bound that the form
  may set on the argument number holds of every number that the service accepts.
* `ready_of_reconstruct`  — whatever the service would answer, the form asks for.
-/

namespace ResidualForm

theorem Binary.isDigit {text : List Char} (h : Binary text) : ∀ c ∈ text, c.isDigit = true := by
  intro c hc
  rcases h c hc with rfl | rfl <;> rfl

theorem TruthVector.Residuals.length_pos {zero one : List Char} {argument : Nat}
    (h : Residuals zero one argument) : 1 ≤ zero.length := by
  obtain ⟨-, -, -, n, hn, -⟩ := h
  rw [hn]
  exact Nat.one_le_two_pow

theorem TruthVector.Residuals.argument_le {zero one : List Char} {argument : Nat}
    (h : Residuals zero one argument) : argument ≤ zero.length := by
  obtain ⟨-, -, -, n, hn, ha⟩ := h
  rw [hn]
  exact Nat.le_trans ha (Nat.le_of_lt Nat.lt_two_pow_self)

/-- Digits are as many clusters as characters, so the limit that is kept for the one is kept for the
other. -/
theorem ResidualField.Fits.digits {f : ResidualField} {limit : Nat} (h : f.Fits limit)
    (hpos : 1 ≤ f.text.length) (hd : ∀ c ∈ f.text, c.isDigit = true) : Digits limit f.text :=
  ⟨hpos, Text.clusterCount_of_forall_digit hd ▸ h.size_le, hd⟩

namespace Form

theorem Sound.ready_of_residuals {s : FormSettings} {f : Form} (h : f.Sound s)
    (ha : f.argument.text ≠ [])
    (hr : TruthVector.Residuals f.zero.text f.one.text (Text.decimalValue f.argument.text)) :
    f.readiness = .ready f.request := by
  have hpos : 1 ≤ f.zero.text.length := hr.length_pos
  have hbound := hr.argument_le
  obtain ⟨hzero, hone, hlength, -⟩ := hr
  have hdzero : Digits s.clamp.residualLimit f.zero.text := h.zero.digits hpos hzero.isDigit
  have hdone : Digits s.clamp.residualLimit f.one.text :=
    h.one.digits (hlength ▸ hpos) hone.isDigit
  rw [h.readiness_eq, verdict_eq_ready_iff]
  exact ⟨rfl, hdzero, hdone, hlength.symm, ha, fun _ => hbound⟩

/-- In every state that a form can reach, and under all settings, a request that would be answered
with a function is let through as it stands. -/
theorem ready_of_reconstruct (s : FormSettings) (acts : List Act) (digits : String) :
    let f := (ofSettings s).run acts
    let request : Request := ⟨f.text .zero, f.text .one, f.text .argument⟩
    request.reconstruct = .function digits → f.readiness = .ready request := by
  intro f request h
  have hsound : f.Sound s := (sound_ofSettings s).run acts
  obtain ⟨argument, hargument, hr⟩ := Request.residuals_of_reconstruct h
  have hread : argumentNumber? f.argument.text = some argument := hargument
  have hne : f.argument.text ≠ [] := by
    intro hnil
    rw [hnil] at hread
    cases hread
  obtain ⟨c, hc, hdigit⟩ := hsound.argument.eq_digit hne
  rw [hc, argumentNumber?_digit hdigit, ← hc] at hread
  obtain rfl := Option.some.inj hread
  exact hsound.ready_of_residuals hne hr

/-- Four digits on each side and the last argument number that goes with them. -/
def lastArgument : List Act :=
  [.edit .zero (.paste "0111".toList), .edit .one (.paste "0001".toList),
    .edit .argument (.paste "no. 2".toList)]

theorem ready_of_reconstruct_last_argument :
    let f := (ofSettings { residualLimit := 4, policy := .zeroOnly }).run lastArgument
    (⟨f.text .zero, f.text .one, f.text .argument⟩ : Request).reconstruct = .function "01110001" ∧
      f.readiness = .ready ⟨"0111".toList, "0001".toList, "2".toList⟩ := by
  intro f
  have hanswer : (⟨f.text .zero, f.text .one, f.text .argument⟩ : Request).reconstruct =
      .function "01110001" := by decide +kernel
  exact ⟨hanswer, ready_of_reconstruct _ lastArgument "01110001" hanswer⟩

end Form
end ResidualForm
