import ResidualForm.Proofs.Form.Run
import ResidualForm.Text.Decimal

/-!
# ResidualForm.Proofs.Form.Readiness

The rule of the form, told from the texts in it. It counts single characters: where it comes to
compare lengths and numbers, there are only digits, and no two of them merge.

* `verdict` — the rule as a function of the three texts, the length limit and the bound.
* `Sound.readiness_eq` — in every state that a form can reach, its readiness is that verdict.
* `readiness_told_by_texts` — what the verdict comes to, case by case.
-/

namespace ResidualForm

/-- At least one decimal digit, and at most `limit` of them. -/
def Digits (limit : Nat) (text : List Char) : Prop :=
  1 ≤ text.length ∧ text.length ≤ limit ∧ ∀ c ∈ text, c.isDigit = true

instance (limit : Nat) (text : List Char) : Decidable (Digits limit text) :=
  inferInstanceAs (Decidable (_ ∧ _ ∧ _))

theorem ResidualField.valid_iff_digits {f : ResidualField} (h : f.text ≠ []) :
    f.valid = true ↔ Digits f.limit f.text := by
  have hpos := List.length_pos_iff.2 h
  rw [valid_iff]
  exact ⟨fun ⟨hlen, hdigits⟩ => ⟨hpos, hlen, hdigits⟩, fun ⟨_, hlen, hdigits⟩ => ⟨hlen, hdigits⟩⟩

theorem ResidualField.size_of_digits {f : ResidualField} {limit : Nat} (h : Digits limit f.text) :
    f.size = f.text.length :=
  Text.clusterCount_of_forall_digit h.2.2

theorem ArgumentField.Single.eq_digit {f : ArgumentField} (h : f.Single) (hne : f.text ≠ []) :
    ∃ c, f.text = [c] ∧ c.isDigit = true := by
  obtain ⟨c, hc⟩ := List.length_eq_one_iff.1
    (Nat.le_antisymm h.length_le (List.length_pos_iff.2 hne))
  exact ⟨c, hc, h.isDigit c (by simp [hc])⟩

theorem ArgumentField.Single.value?_eq {f : ArgumentField} (h : f.Single) (hne : f.text ≠ []) :
    f.value? = some (Text.decimalValue f.text) := by
  obtain ⟨c, hc, hdigit⟩ := h.eq_digit hne
  rw [value?_eq_some_iff]
  refine ⟨c, hc, hdigit, ?_⟩
  rw [hc]
  simp [Text.decimalValue, Text.digitValue]

/-- What a reason says of the texts. -/
def HoldReason.Tells (limit : Nat) (r : Request) : HoldReason → Prop
  | .zeroFormat => ¬ Digits limit r.zero
  | .oneFormat => ¬ Digits limit r.one
  | .argumentFormat => False
  | .lengthMismatch zeroLength oneLength =>
    zeroLength = r.zero.length ∧ oneLength = r.one.length
  | .argumentOutOfBounds argument greatest =>
    argument = Text.decimalValue r.argument ∧ greatest = r.zero.length

namespace Form

/-- The first rule that the texts break decides. All lengths are those of the texts. -/
def verdict (limit : Nat) (bound : Bool) (r : Request) : Readiness :=
  if r.zero = [] ∨ r.one = [] ∨ r.argument = [] then .incomplete
  else if ¬ Digits limit r.zero then .hold .zeroFormat
  else if ¬ Digits limit r.one then .hold .oneFormat
  else if r.zero.length ≠ r.one.length then
    .hold (.lengthMismatch r.zero.length r.one.length)
  else if bound = true ∧ r.zero.length < Text.decimalValue r.argument then
    .hold (.argumentOutOfBounds (Text.decimalValue r.argument) r.zero.length)
  else .ready r

variable {limit : Nat} {bound : Bool} {r : Request}

theorem verdict_eq_incomplete_iff :
    verdict limit bound r = .incomplete ↔ r.zero = [] ∨ r.one = [] ∨ r.argument = [] := by
  constructor
  · intro h
    rw [verdict] at h
    split at h
    · assumption
    -- no other rule gives this verdict
    · repeat' split at h
      all_goals cases h
  · exact fun h => if_pos h

theorem verdict_eq_ready_iff {request : Request} :
    verdict limit bound r = .ready request ↔
      request = r ∧ Digits limit r.zero ∧ Digits limit r.one ∧ r.zero.length = r.one.length ∧
        r.argument ≠ [] ∧
        (bound = true → Text.decimalValue r.argument ≤ r.zero.length) := by
  constructor
  · intro h
    rw [verdict] at h
    split at h
    · cases h
    rename_i hfilled
    split at h
    · cases h
    rename_i hzero
    split at h
    · cases h
    rename_i hone
    split at h
    · cases h
    rename_i hlength
    split at h
    · cases h
    rename_i hbound
    cases h
    refine ⟨rfl, Decidable.not_not.1 hzero, Decidable.not_not.1 hone, Decidable.not_not.1 hlength,
      fun ha => hfilled (.inr (.inr ha)), fun hb => ?_⟩
    exact Nat.le_of_not_lt fun hlt => hbound ⟨hb, hlt⟩
  · rintro ⟨rfl, hzero, hone, hlength, ha, hbound⟩
    have hz := List.ne_nil_of_length_pos hzero.1
    have ho := List.ne_nil_of_length_pos hone.1
    rw [verdict, if_neg (by simp [hz, ho, ha]), if_neg (not_not_intro hzero),
      if_neg (not_not_intro hone), if_neg (not_not_intro hlength),
      if_neg fun hb => Nat.not_lt_of_le (hbound hb.1) hb.2]

theorem tells_of_verdict {reason : HoldReason} (h : verdict limit bound r = .hold reason) :
    reason.Tells limit r := by
  rw [verdict] at h
  split at h
  · cases h
  split at h
  · cases h
    assumption
  split at h
  · cases h
    assumption
  split at h
  · cases h
    exact ⟨rfl, rfl⟩
  split at h
  · cases h
    exact ⟨rfl, rfl⟩
  · cases h

/-- The readiness of a form is the verdict on its texts. -/
theorem Sound.readiness_eq {s : FormSettings} {f : Form} (h : f.Sound s) :
    f.readiness = verdict s.clamp.residualLimit s.boundArgument f.request := by
  by_cases hempty : f.request.zero = [] ∨ f.request.one = [] ∨ f.request.argument = []
  · rw [verdict, if_pos hempty, readiness, if_pos]
    simpa [request, or_assoc] using hempty
  have hz : f.zero.text ≠ [] := fun hz => hempty (.inl hz)
  have ho : f.one.text ≠ [] := fun ho => hempty (.inr (.inl ho))
  have ha : f.argument.text ≠ [] := fun ha => hempty (.inr (.inr ha))
  have hvalid : f.zero.valid = true ↔ Digits s.clamp.residualLimit f.request.zero := by
    rw [← h.zero.limit_eq]
    exact ResidualField.valid_iff_digits hz
  have hvalid' : f.one.valid = true ↔ Digits s.clamp.residualLimit f.request.one := by
    rw [← h.one.limit_eq]
    exact ResidualField.valid_iff_digits ho
  rw [verdict, if_neg hempty, readiness, if_neg (by simp [hz, ho, ha])]
  by_cases hzero : f.zero.valid = true
  · have hdzero := hvalid.1 hzero
    rw [if_neg (by simp [hzero]), if_neg (not_not_intro hdzero)]
    by_cases hone : f.one.valid = true
    · have hdone := hvalid'.1 hone
      have hbound : f.settings.boundArgument = s.boundArgument := by
        rw [h.settings]
        rfl
      rw [if_neg (by simp [hone]), if_neg (not_not_intro hdone), h.argument.value?_eq ha]
      simp only [ResidualField.greatestArgument, ResidualField.size_of_digits hdzero,
        ResidualField.size_of_digits hdone, hbound, Bool.and_eq_true, decide_eq_true_eq]
      rfl
    · rw [if_pos (by simpa using hone), if_pos (mt hvalid'.2 hone)]
  · rw [if_pos (by simpa using hzero), if_pos (mt hvalid.2 hzero)]

/-- The policy is not looked at. -/
theorem readiness_run_policy (s : FormSettings) (policy : Policy) (acts : List Act) :
    ((ofSettings { s with policy }).run acts).readiness = ((ofSettings s).run acts).readiness := by
  have hrequest : ((ofSettings { s with policy }).run acts).request =
      ((ofSettings s).run acts).request := by
    rw [run_eq, run_eq]
    rfl
  rw [((sound_ofSettings _).run acts).readiness_eq, ((sound_ofSettings s).run acts).readiness_eq,
    hrequest]
  rfl

/-- In every state that a form can reach, its readiness is told by the texts in it: incomplete where
one is empty, and ready, with the texts as they stand, where both residuals are digits, equally many
and not too many, and the argument number is in bounds. The argument field is empty or holds a
digit, so the form is never held for its format; the numbers in a reason are those of the texts; and
the policy has no say. -/
theorem readiness_told_by_texts (s : FormSettings) (acts : List Act) :
    let f := (ofSettings s).run acts
    let limit := min (max s.residualLimit 1) 16
    (f.readiness = .incomplete ↔
      f.text .zero = [] ∨ f.text .one = [] ∨ f.text .argument = []) ∧
    (∀ request, f.readiness = .ready request ↔
      request = ⟨f.text .zero, f.text .one, f.text .argument⟩ ∧
        Digits limit (f.text .zero) ∧ Digits limit (f.text .one) ∧
        (f.text .zero).length = (f.text .one).length ∧ f.text .argument ≠ [] ∧
        (s.boundArgument = true →
          Text.decimalValue (f.text .argument) ≤ (f.text .zero).length)) ∧
    (f.text .argument = [] ∨ ∃ c, f.text .argument = [c] ∧ c.isDigit = true) ∧
    f.readiness ≠ .hold .argumentFormat ∧
    (∀ zeroLength oneLength, f.readiness = .hold (.lengthMismatch zeroLength oneLength) →
      zeroLength = (f.text .zero).length ∧ oneLength = (f.text .one).length) ∧
    (∀ argument greatest, f.readiness = .hold (.argumentOutOfBounds argument greatest) →
      argument = Text.decimalValue (f.text .argument) ∧ greatest = (f.text .zero).length) ∧
    ∀ policy, ((ofSettings { s with policy }).run acts).readiness = f.readiness := by
  intro f limit
  have h : f.Sound s := (sound_ofSettings s).run acts
  have hreadiness : f.readiness = verdict limit s.boundArgument f.request := h.readiness_eq
  have htells : ∀ reason, f.readiness = .hold reason → reason.Tells limit f.request :=
    fun reason hr => tells_of_verdict (hreadiness.symm.trans hr)
  refine ⟨?_, ?_, ?_, ?_, ?_, ?_, ?_⟩
  · rw [hreadiness]
    exact verdict_eq_incomplete_iff
  · intro request
    rw [hreadiness]
    exact verdict_eq_ready_iff
  · by_cases hne : f.text .argument = []
    · exact .inl hne
    · exact .inr (h.argument.eq_digit hne)
  · exact htells .argumentFormat
  · exact fun zeroLength oneLength => htells (.lengthMismatch zeroLength oneLength)
  · exact fun argument greatest => htells (.argumentOutOfBounds argument greatest)
  · exact fun policy => readiness_run_policy s policy acts

/-- A letter is typed into the first residual and deleted again, and the argument field takes the
digit out of what is pasted. -/
def mistyping : List Act :=
  [.edit .zero (.paste "1x2".toList), .move .zero .left, .edit .zero .backspace,
    .edit .one (.paste "34".toList), .edit .argument (.paste "no. 3".toList)]

theorem readiness_told_by_texts_mistyping :
    let f := (ofSettings { residualLimit := 99 }).run mistyping
    f.readiness = .hold (.argumentOutOfBounds 3 2) ∧
      3 = Text.decimalValue (f.text .argument) ∧ 2 = (f.text .zero).length ∧
      let g := (ofSettings { residualLimit := 99, boundArgument := false }).run mistyping
      g.readiness = .ready ⟨"12".toList, "34".toList, "3".toList⟩ ∧
        Digits 16 (g.text .zero) ∧ Digits 16 (g.text .one) ∧ g.text .argument ≠ [] := by
  intro f
  have hf : f.readiness = .hold (.argumentOutOfBounds 3 2) := by decide +kernel
  have hbound := (readiness_told_by_texts { residualLimit := 99 } mistyping).2.2.2.2.2.1 3 2 hf
  refine ⟨hf, hbound.1, hbound.2, ?_⟩
  intro g
  have hg : g.readiness = .ready ⟨"12".toList, "34".toList, "3".toList⟩ := by decide +kernel
  obtain ⟨-, hzero, hone, -, ha, -⟩ :=
    ((readiness_told_by_texts { residualLimit := 99, boundArgument := false } mistyping).2.1 _).1 hg
  exact ⟨hg, hzero, hone, ha⟩

end Form
end ResidualForm
