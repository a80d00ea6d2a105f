import Mathlib.Tactic.IntervalCases
import ResidualForm.Proofs.Service
import ResidualForm.Proofs.TruthVector.RoundTrip
import ResidualForm.Sample

/-!
# ResidualForm.Proofs.Sample

Exercises. Whatever is drawn, there is one (`exists_drawnFrom`); its residuals have half the rows of
the function each, they are no longer than the limit for which the number of arguments was chosen
(`two_pow_le_of_argumentsForLength`), and the function is the answer to its request
(`DrawnFrom.reconstruct`).
-/

namespace ResidualForm

theorem TruthVector.exists_ofRows {rows : List Bool} {n : Nat} (hl : rows.length = 2 ^ n)
    (hn : 0 < n) : ∃ f, ofRows rows = .ok f ∧ f.rows = rows ∧ f.arguments = n := by
  have hcount : argumentCount? rows.length = some n := argumentCount?_eq_some_iff.2 ⟨hl, hn⟩
  unfold ofRows
  split
  · rename_i hnone
    rw [hcount] at hnone
    cases hnone
  · rename_i m hsome
    rw [hcount] at hsome
    cases hsome
    exact ⟨_, rfl, rfl, rfl⟩

/-- The residuals of a function with so many arguments are not longer than the limit. -/
theorem two_pow_le_of_argumentsForLength {n limit : Nat} (hl : 0 < limit)
    (hn : n ≤ argumentsForLength limit) : 2 ^ (n - 1) ≤ limit := by
  rw [argumentsForLength, Nat.max_eq_left hl] at hn
  calc 2 ^ (n - 1) ≤ 2 ^ limit.log2 := Nat.pow_le_pow_right (by decide) (Nat.sub_le_of_le_add hn)
    _ ≤ limit := Nat.log2_self_le (Nat.ne_of_gt hl)

/-- A number below ten is written as a single digit. -/
theorem exists_digit_of_lt_ten {n : Nat} (hn : n < 10) :
    ∃ c, (Nat.repr n).toList = [c] ∧ c.isDigit = true ∧ Text.decimalValue [c] = n := by
  interval_cases n <;> exact ⟨_, rfl, by decide, by decide⟩

namespace Sample

/-- How an exercise with `n` arguments comes of what was drawn. -/
structure DrawnFrom (draw : Draw) (n : Nat) (s : Sample) : Prop where
  rows_eq : s.function.rows = (List.range (2 ^ n)).map draw.value
  arguments_eq : s.function.arguments = n
  argument_eq : s.argument = draw.choice % n
  residual_zero : s.function.residual s.argument false = .ok s.zero
  residual_one : s.function.residual s.argument true = .ok s.one

theorem exists_drawnFrom (arguments : Nat) (draw : Draw) :
    ∃ s, ofDraw arguments draw = .ok s ∧
      s.DrawnFrom draw (min (max arguments 1) mostSampleArguments) := by
  have hpos : 0 < min (max arguments 1) mostSampleArguments := by
    rw [mostSampleArguments]
    omega
  have hlength : ((List.range (rowCount (min (max arguments 1) mostSampleArguments))).map
      draw.value).length = 2 ^ min (max arguments 1) mostSampleArguments := by
    rw [List.length_map, List.length_range, rowCount_eq]
  obtain ⟨f, hf, hrows, hn⟩ := TruthVector.exists_ofRows hlength hpos
  have hlt : draw.choice % f.arguments < f.arguments := Nat.mod_lt _ f.arguments_pos
  refine ⟨⟨f, draw.choice % f.arguments, _, _⟩, ?_, ?_, hn, ?_,
    TruthVector.residual_of_lt hlt false, TruthVector.residual_of_lt hlt true⟩
  · simp only [ofDraw, randomFunction, hf, bind, Except.bind, TruthVector.residual_of_lt hlt]
    rfl
  · rw [hrows, rowCount_eq]
  · rw [hn]

variable {draw : Draw} {n : Nat} {s : Sample}

theorem DrawnFrom.argument_lt (h : s.DrawnFrom draw n) : s.argument < s.function.arguments := by
  rw [h.argument_eq, h.arguments_eq]
  exact Nat.mod_lt _ (h.arguments_eq ▸ s.function.arguments_pos)

theorem DrawnFrom.length_residual (h : s.DrawnFrom draw n) {value : Bool} {residual : List Bool}
    (hr : s.function.residual s.argument value = .ok residual) : residual.length = 2 ^ (n - 1) := by
  have hlt := h.argument_lt
  rw [TruthVector.residual_of_lt hlt] at hr
  obtain rfl := Except.ok.inj hr
  rw [h.arguments_eq] at hlt
  apply TruthVector.length_rowsWhere (by omega)
  rw [h.rows_eq, List.length_map, List.length_range, Nat.sub_add_cancel (by omega)]

theorem DrawnFrom.ofResiduals (h : s.DrawnFrom draw n) :
    TruthVector.ofResiduals s.request.zero s.request.one s.argument = .ok s.function := by
  have hz := h.residual_zero
  have ho := h.residual_one
  rw [TruthVector.residual_of_lt h.argument_lt] at hz ho
  rw [request, ← Except.ok.inj hz, ← Except.ok.inj ho]
  exact TruthVector.ofResiduals_rowsWhere h.argument_lt

/-- Up to ten arguments have a number of one digit. -/
theorem DrawnFrom.exists_digit (h : s.DrawnFrom draw n) (hn : n ≤ 10) :
    ∃ c, s.request.argument = [c] ∧ c.isDigit = true ∧
      Text.decimalValue s.request.argument = s.argument := by
  have hlt := h.argument_lt
  rw [h.arguments_eq] at hlt
  obtain ⟨c, hc, hdigit, hvalue⟩ := exists_digit_of_lt_ten (Nat.lt_of_lt_of_le hlt hn)
  exact ⟨c, hc, hdigit, (congrArg Text.decimalValue hc).trans hvalue⟩

theorem DrawnFrom.residuals (h : s.DrawnFrom draw n) (hn : n ≤ 10) :
    TruthVector.Residuals s.request.zero s.request.one (Text.decimalValue s.request.argument) := by
  obtain ⟨c, -, -, hvalue⟩ := h.exists_digit hn
  rw [hvalue]
  exact TruthVector.residuals_of_ofResiduals h.ofResiduals

theorem DrawnFrom.reconstruct (h : s.DrawnFrom draw n) (hn : n ≤ 10) :
    s.request.reconstruct = .function (String.ofList s.function.digits) := by
  obtain ⟨c, hc, hdigit, hvalue⟩ := h.exists_digit hn
  rw [Request.reconstruct_digit hc hdigit, hvalue, h.ofResiduals]

end Sample
end ResidualForm
