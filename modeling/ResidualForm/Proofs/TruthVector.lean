import Mathlib.Algebra.Group.Nat.Defs
import ResidualForm.TruthVector

/-!
# ResidualForm.Proofs.TruthVector

Functions and their residuals.

* `countP_testBit`  — of the rows of a function, one half has a given bit.
* `rowsWhere_weave` — what has been dealt out to these rows is what is found in them.
* `Residuals` — the texts from which a function can be put together; it can from no others
  (`residuals_of_ofResiduals`), and has these residuals (`Residuals.ofResiduals`).
-/

namespace ResidualForm

theorem rowCount_eq (n : Nat) : rowCount n = 2 ^ n := by
  induction n with
  | zero => rfl
  | succ n ih => rw [rowCount, ih, Nat.pow_succ, Nat.mul_comm]

/-- A text of binary digits. -/
def Binary (text : List Char) : Prop :=
  ∀ c ∈ text, c = '0' ∨ c = '1'

instance (text : List Char) : Decidable (Binary text) :=
  List.decidableBAll (fun c => c = '0' ∨ c = '1') text

theorem binary_map_symbol (values : List Bool) : Binary (values.map symbol) := by
  intro c hc
  obtain ⟨v, -, rfl⟩ := List.mem_map.1 hc
  cases v
  · exact .inl rfl
  · exact .inr rfl

theorem Binary.exists_map_symbol {text : List Char} (h : Binary text) :
    ∃ values : List Bool, text = values.map symbol := by
  induction text with
  | nil => exact ⟨[], rfl⟩
  | cons c rest ih =>
    obtain ⟨hc, hrest⟩ := List.forall_mem_cons.1 h
    obtain ⟨vs, rfl⟩ := ih hrest
    rcases hc with rfl | rfl
    · exact ⟨false :: vs, rfl⟩
    · exact ⟨true :: vs, rfl⟩

theorem values?_eq_some_iff {text : List Char} {values : List Bool} :
    values? text = some values ↔ text = values.map symbol := by
  constructor
  · exact fun h => (map_symbol_of_values? h).symm
  · rintro rfl
    exact values?_map_symbol values

namespace TruthVector

theorem argumentCount?_eq_some_iff {length n : Nat} :
    argumentCount? length = some n ↔ length = 2 ^ n ∧ 0 < n := by
  constructor
  · intro h
    rw [← rowCount_eq]
    exact argumentCount?_eq_some h
  · rintro ⟨rfl, hn⟩
    have hle : 2 ^ 1 ≤ 2 ^ n := Nat.pow_le_pow_right (by decide) hn
    rw [argumentCount?, Nat.log2_two_pow, rowCount_eq, if_pos ⟨hle, rfl⟩]

theorem range_two_pow_succ (n : Nat) :
    List.range (2 ^ (n + 1)) = List.range (2 ^ n) ++ (List.range (2 ^ n)).map (2 ^ n + ·) := by
  rw [Nat.pow_succ, Nat.mul_two, List.range_add]

/-- The highest bit is clear in the lower half of the rows and set in the upper half. -/
theorem countP_highestBit (n : Nat) (value : Bool) :
    (List.range (2 ^ (n + 1))).countP (fun row => row.testBit n == value) = 2 ^ n := by
  have hlower : (List.range (2 ^ n)).countP (fun row => row.testBit n == value) =
      (List.range (2 ^ n)).countP fun _ => false == value := by
    apply List.countP_congr
    intro row hrow
    rw [Nat.testBit_lt_two_pow (List.mem_range.1 hrow)]
  have hupper : (List.range (2 ^ n)).countP ((fun row => row.testBit n == value) ∘ (2 ^ n + ·)) =
      (List.range (2 ^ n)).countP fun _ => true == value := by
    apply List.countP_congr
    intro row hrow
    rw [Function.comp_apply, Nat.testBit_two_pow_add_eq,
      Nat.testBit_lt_two_pow (List.mem_range.1 hrow), Bool.not_false]
  rw [range_two_pow_succ, List.countP_append, List.countP_map, hlower, hupper]
  cases value <;> simp

theorem countP_testBit {k n : Nat} (hk : k ≤ n) (value : Bool) :
    (List.range (2 ^ (n + 1))).countP (fun row => row.testBit k == value) = 2 ^ n := by
  induction n with
  | zero =>
    obtain rfl := Nat.le_zero.1 hk
    exact countP_highestBit 0 value
  | succ n ih =>
    rcases Nat.eq_or_lt_of_le hk with rfl | hlt
    · exact countP_highestBit (n + 1) value
    · -- the lower bits run through the same values in the upper half
      have hupper : (fun row => row.testBit k == value) ∘ (2 ^ (n + 1) + ·) =
          fun row : Nat => row.testBit k == value := by
        funext row
        simp only [Function.comp_apply, Nat.testBit_two_pow_add_gt hlt]
      rw [range_two_pow_succ, List.countP_append, List.countP_map, hupper,
        ih (Nat.le_of_lt_succ hlt), ← Nat.mul_two, Nat.pow_succ]

/-- What is dealt out to rows with a given bit is found there, if it is one value for each. -/
theorem filter_weave (argument : Nat) (value : Bool) (rows : List Nat) (zero one : List Bool)
    (hl : (if value then one else zero).length =
      rows.countP fun row => row.testBit argument == value) :
    (((weave argument rows zero one).zip rows).filter fun row =>
        row.2.testBit argument == value).map Prod.fst =
      if value then one else zero := by
  induction rows generalizing zero one with
  | nil =>
    rw [List.countP_nil, List.length_eq_zero_iff] at hl
    rw [hl]
    rfl
  | cons row rows ih =>
    cases value with
    | false =>
      cases hb : row.testBit argument with
      | true =>
        -- the row is dealt its value from the other residual
        simp only [List.countP_cons, hb] at hl
        simpa [weave, hb] using ih zero one.tail hl
      | false =>
        simp only [List.countP_cons, hb] at hl
        cases zero with
        | nil => simp at hl
        | cons v zero => simpa [weave, hb] using ih zero one (by simpa using hl)
    | true =>
      cases hb : row.testBit argument with
      | false =>
        simp only [List.countP_cons, hb] at hl
        simpa [weave, hb] using ih zero.tail one hl
      | true =>
        simp only [List.countP_cons, hb] at hl
        cases one with
        | nil => simp at hl
        | cons v one => simpa [weave, hb] using ih zero one (by simpa using hl)

theorem rowsWhere_weave {argument n : Nat} (ha : argument ≤ n) {zero one : List Bool}
    (hz : zero.length = 2 ^ n) (ho : one.length = 2 ^ n) (value : Bool) :
    rowsWhere argument value (weave argument (List.range (2 ^ (n + 1))) zero one) =
      if value then one else zero := by
  rw [rowsWhere, List.zipIdx_eq_zip_range', length_weave, List.length_range, ← List.range_eq_range']
  apply filter_weave
  rw [countP_testBit ha]
  cases value
  · exact hz
  · exact ho

/-- A function is read back from its digits. -/
theorem parse_digits (f : TruthVector) : parse f.digits = .ok f := by
  have hcount : argumentCount? f.rows.length = some f.arguments :=
    argumentCount?_eq_some_iff.2 ⟨by rw [f.length_rows, rowCount_eq], f.arguments_pos⟩
  rw [parse, digits, values?_map_symbol]
  show ofRows f.rows = .ok f
  unfold ofRows
  split
  · rename_i hnone
    rw [hcount] at hnone
    cases hnone
  · rename_i n hsome
    rw [hcount] at hsome
    cases hsome
    rfl

theorem ofResidualValues_of_length {zero one : List Bool} {argument n : Nat}
    (hz : zero.length = 2 ^ n) (ho : one.length = 2 ^ n) (ha : argument ≤ n) :
    ∃ f, ofResidualValues zero one argument = .ok f ∧ f.arguments = n + 1 ∧
      f.rows = weave argument (List.range (2 ^ (n + 1))) zero one := by
  have hdouble : zero.length * 2 = 2 ^ (n + 1) := by rw [hz, Nat.pow_succ]
  have hcount : argumentCount? (zero.length * 2) = some (n + 1) :=
    argumentCount?_eq_some_iff.2 ⟨hdouble, Nat.succ_pos n⟩
  unfold ofResidualValues
  rw [if_neg (by omega)]
  split
  · rename_i hnone
    rw [hcount] at hnone
    cases hnone
  · rename_i m hsome
    rw [hcount] at hsome
    cases hsome
    rw [if_pos (Nat.lt_succ_of_le ha)]
    exact ⟨_, rfl, rfl, congrArg (fun rows => weave argument (List.range rows) zero one) hdouble⟩

theorem length_of_ofResidualValues {zero one : List Bool} {argument : Nat} {f : TruthVector}
    (h : ofResidualValues zero one argument = .ok f) :
    one.length = zero.length ∧ ∃ n, zero.length = 2 ^ n ∧ argument ≤ n := by
  unfold ofResidualValues at h
  split at h
  · cases h
  · rename_i hlen
    split at h
    · cases h
    · rename_i m hsome
      split at h
      · rename_i hlt
        obtain ⟨hdouble, hpos⟩ := argumentCount?_eq_some_iff.1 hsome
        obtain ⟨n, rfl⟩ : ∃ n, m = n + 1 := ⟨m - 1, by omega⟩
        rw [Nat.pow_succ] at hdouble
        exact ⟨by omega, n, by omega, Nat.le_of_lt_succ hlt⟩
      · cases h

/-- The texts from which a function can be put together. -/
def Residuals (zero one : List Char) (argument : Nat) : Prop :=
  Binary zero ∧ Binary one ∧ one.length = zero.length ∧ ∃ n, zero.length = 2 ^ n ∧ argument ≤ n

theorem residuals_of_ofResiduals {zero one : List Char} {argument : Nat} {f : TruthVector}
    (h : ofResiduals zero one argument = .ok f) : Residuals zero one argument := by
  unfold ofResiduals at h
  split at h
  · rename_i zs os hz ho
    rw [values?_eq_some_iff] at hz ho
    obtain ⟨hlen, n, hn, ha⟩ := length_of_ofResidualValues h
    subst hz ho
    exact ⟨binary_map_symbol zs, binary_map_symbol os, by simpa using hlen, n, by simpa using hn, ha⟩
  · cases h

theorem ofResiduals_map_symbol (zs os : List Bool) (argument : Nat) :
    ofResiduals (zs.map symbol) (os.map symbol) argument = ofResidualValues zs os argument := by
  rw [ofResiduals, values?_map_symbol, values?_map_symbol]

theorem Residuals.exists_weave {zero one : List Char} {argument : Nat}
    (h : Residuals zero one argument) :
    ∃ (zs os : List Bool) (n : Nat) (f : TruthVector),
      zero = zs.map symbol ∧ one = os.map symbol ∧ zs.length = 2 ^ n ∧ os.length = 2 ^ n ∧
      argument ≤ n ∧ ofResiduals zero one argument = .ok f ∧ f.arguments = n + 1 ∧
      f.rows = weave argument (List.range (2 ^ (n + 1))) zs os := by
  obtain ⟨hbz, hbo, hlen, n, hn, ha⟩ := h
  obtain ⟨zs, rfl⟩ := hbz.exists_map_symbol
  obtain ⟨os, rfl⟩ := hbo.exists_map_symbol
  rw [List.length_map, List.length_map] at hlen
  rw [List.length_map] at hn
  obtain ⟨f, hf, hargs, hrows⟩ := ofResidualValues_of_length hn (hlen.trans hn) ha
  rw [← ofResiduals_map_symbol] at hf
  exact ⟨zs, os, n, f, rfl, rfl, hn, hlen.trans hn, ha, hf, hargs, hrows⟩

theorem Residuals.ofResiduals {zero one : List Char} {argument : Nat}
    (h : Residuals zero one argument) :
    ∃ f, ofResiduals zero one argument = .ok f ∧
      (f.residual argument false).map (List.map symbol) = .ok zero ∧
      (f.residual argument true).map (List.map symbol) = .ok one := by
  obtain ⟨zs, os, n, f, rfl, rfl, hz, ho, ha, hf, hargs, hrows⟩ := h.exists_weave
  have hlt : argument < f.arguments := by omega
  have hres (value : Bool) : f.residual argument value = .ok (if value then os else zs) := by
    rw [residual, if_pos hlt, hrows, rowsWhere_weave ha hz ho]
  refine ⟨f, hf, ?_, ?_⟩
  · rw [hres false]
    rfl
  · rw [hres true]
    rfl

end TruthVector
end ResidualForm
