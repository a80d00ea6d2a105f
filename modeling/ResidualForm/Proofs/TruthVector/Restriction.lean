import Mathlib.Data.List.Induction
import ResidualForm.Proofs.TruthVector.RoundTrip
import ResidualForm.Proofs.TruthVector.Rows

/-!
# ResidualForm.Proofs.TruthVector.Restriction

Two arguments of a function fixed one after the other. When the first is fixed, the rows that are
kept close up, and each gets the index that its own is without the bit of that argument. The second
argument is then found at its own number if it is below the first, and at the one before if above.

* `testBit_deleteBit`   — the bits of an index that has lost one.
* `zipIdx_rowsWhere`    — the rows that are kept, with their new indices.
* `rowsWhere_rowsWhere` — what is left in the end are the rows whose index has both bits.
* `residuals_commute`   — so it does not matter which of the arguments is fixed first.
-/

namespace ResidualForm
namespace TruthVector

theorem testBit_deleteBit (argument row k : Nat) :
    (deleteBit argument row).testBit k = row.testBit (if k < argument then k else k + 1) := by
  rw [deleteBit, Nat.mul_comm, Nat.testBit_two_pow_mul_add _ (Nat.mod_lt _ (Nat.two_pow_pos _))]
  by_cases hk : k < argument
  · rw [if_pos hk, if_pos hk, Nat.testBit_mod_two_pow, decide_eq_true hk, Bool.true_and]
  · rw [if_neg hk, if_neg hk, Nat.testBit_shiftRight]
    congr 1
    omega

theorem length_rowsWhere_eq_rank (argument : Nat) (value : Bool) (rows : List Bool) :
    (rowsWhere argument value rows).length = rank argument value rows.length := by
  have hindices : List.range rows.length = rows.zipIdx.map Prod.snd := by
    rw [List.zipIdx_map_snd, List.range_eq_range']
  rw [rank, hindices, List.countP_map, rowsWhere, List.length_map, List.countP_eq_length_filter]
  rfl

/-- Each row that is kept gets as its index the number of kept rows before it. -/
theorem zipIdx_rowsWhere (argument : Nat) (value : Bool) (rows : List Bool) :
    (rowsWhere argument value rows).zipIdx =
      (rows.zipIdx.filter fun row => row.2.testBit argument == value).map fun row =>
        (row.1, deleteBit argument row.2) := by
  induction rows using List.reverseRecOn with
  | nil => rfl
  | append_singleton rows last ih =>
    have hzip : (rows ++ [last]).zipIdx = rows.zipIdx ++ [(last, rows.length)] := by
      simp [List.zipIdx_append]
    by_cases hbit : (rows.length.testBit argument == value) = true
    · have hrank : (rowsWhere argument value rows).length = deleteBit argument rows.length := by
        rw [length_rowsWhere_eq_rank, ← rank_testBit, eq_of_beq hbit]
      have hkept : rowsWhere argument value (rows ++ [last]) =
          rowsWhere argument value rows ++ [last] := by
        simp [rowsWhere, hzip, hbit]
      rw [hkept, List.zipIdx_append, ih, hzip, List.filter_append, List.map_append]
      simp [hbit, hrank]
    · have hdropped : rowsWhere argument value (rows ++ [last]) = rowsWhere argument value rows := by
        simp [rowsWhere, hzip, hbit]
      rw [hdropped, ih, hzip, List.filter_append]
      simp [hbit]

theorem rowsWhere_rowsWhere (first second : Nat) (a b : Bool) (rows : List Bool) :
    rowsWhere second b (rowsWhere first a rows) =
      (rows.zipIdx.filter fun row =>
        row.2.testBit first == a &&
          row.2.testBit (if second < first then second else second + 1) == b).map Prod.fst := by
  rw [rowsWhere, zipIdx_rowsWhere, List.filter_map, List.map_map, List.filter_filter]
  simp only [Function.comp_def, testBit_deleteBit, Bool.and_comm]

/-- A function with an argument fixed, where it has another one. -/
theorem exists_parse_residual {f : TruthVector} {argument n : Nat} (hn : f.arguments = n + 2)
    (ha : argument < f.arguments) (value : Bool) :
    ∃ g, (f.residual argument value).map (List.map symbol) = .ok g.digits ∧
      parse g.digits = .ok g ∧ g.arguments = n + 1 ∧ g.rows = rowsWhere argument value f.rows := by
  have hlength : (rowsWhere argument value f.rows).length = 2 ^ (n + 1) :=
    length_rowsWhere (by omega) (by rw [f.length_rows, rowCount_eq, hn]) value
  let g : TruthVector :=
    ⟨rowsWhere argument value f.rows, n + 1, by rw [hlength, rowCount_eq], Nat.succ_pos n⟩
  refine ⟨g, ?_, parse_digits g, rfl, rfl⟩
  rw [residual_of_lt ha]
  rfl

/-- Fixing two arguments of a function leaves the same rows whichever is fixed first: those whose
index has both bits, a quarter of all. The function in between has one argument fewer, so that the
higher of the two is found one place below if the lower one is fixed first. -/
theorem residuals_commute (f : TruthVector) {i j : Nat} (hij : i < j) (hj : j < f.arguments)
    (a b : Bool) :
    ∃ (upper lower : List Char) (g h : TruthVector) (values : List Bool),
      (f.residual j b).map (List.map symbol) = .ok upper ∧ parse upper = .ok g ∧
      (f.residual i a).map (List.map symbol) = .ok lower ∧ parse lower = .ok h ∧
      g.arguments + 1 = f.arguments ∧ h.arguments + 1 = f.arguments ∧
      g.residual i a = .ok values ∧ h.residual (j - 1) b = .ok values ∧
      4 * values.length = f.digits.length ∧
      values = (f.rows.zipIdx.filter fun row =>
        row.2.testBit i == a && row.2.testBit j == b).map Prod.fst := by
  obtain ⟨n, hn⟩ : ∃ n, f.arguments = n + 2 := ⟨f.arguments - 2, by omega⟩
  obtain ⟨g, hg, hparseg, hgn, hgrows⟩ := exists_parse_residual hn hj b
  obtain ⟨h, hh, hparseh, hhn, hhrows⟩ := exists_parse_residual hn (Nat.lt_trans hij hj) a
  have hboth : rowsWhere i a g.rows = (f.rows.zipIdx.filter fun row =>
      row.2.testBit i == a && row.2.testBit j == b).map Prod.fst := by
    rw [hgrows, rowsWhere_rowsWhere, if_pos hij]
    simp only [Bool.and_comm]
  have hcommute : rowsWhere (j - 1) b h.rows = rowsWhere i a g.rows := by
    have hge : ¬ j - 1 < i := by omega
    rw [hboth, hhrows, rowsWhere_rowsWhere, if_neg hge, Nat.sub_add_cancel (Nat.one_le_of_lt hij)]
  have hlength : (rowsWhere i a g.rows).length = 2 ^ n :=
    length_rowsWhere (by omega) (by rw [g.length_rows, rowCount_eq, hgn]) a
  have hquarter : 4 * (rowsWhere i a g.rows).length = f.digits.length := by
    rw [hlength, digits, List.length_map, f.length_rows, rowCount_eq, hn, Nat.pow_add, Nat.mul_comm]
  have hi' : i < g.arguments := by omega
  have hj' : j - 1 < h.arguments := by omega
  refine ⟨_, _, g, h, _, hg, hparseg, hh, hparseh, by omega, by omega, residual_of_lt hi' a, ?_,
    hquarter, hboth⟩
  rw [residual_of_lt hj', hcommute]

/-- Of eight rows, those with the lowest bit set and the highest clear. -/
theorem residuals_commute_eight_rows :
    ∃ f : TruthVector, f.digits = "01101011".toList ∧ 2 < f.arguments ∧
      ∃ (upper lower : List Char) (g h : TruthVector) (values : List Bool),
        (f.residual 2 false).map (List.map symbol) = .ok upper ∧ parse upper = .ok g ∧
        (f.residual 0 true).map (List.map symbol) = .ok lower ∧ parse lower = .ok h ∧
        g.residual 0 true = .ok values ∧ h.residual 1 false = .ok values ∧
        values = [true, false] := by
  let f : TruthVector :=
    ⟨[false, true, true, false, true, false, true, true], 3, by decide, by decide⟩
  have hj : 2 < f.arguments := by decide
  obtain ⟨upper, lower, g, h, values, hu, hg, hl, hh, -, -, hgv, hhv, -, hv⟩ :=
    residuals_commute f (i := 0) (by decide) hj true false
  exact ⟨f, by decide, hj, upper, lower, g, h, values, hu, hg, hl, hh, hgv, hhv, hv⟩

end TruthVector
end ResidualForm
