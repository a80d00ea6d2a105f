import ResidualForm.Proofs.Text.Numeral
import ResidualForm.Proofs.TruthVector
import ResidualForm.Service

/-!
# ResidualForm.Proofs.Service

The answer that is computed here to a request: a function only for residuals of one
(`residuals_of_reconstruct`). Where the argument number is a single digit, it is a function for a
request that has a solution (`reconstruct_of_solvable`), and a refusal for any other
(`solvable_of_reconstruct`).
-/

namespace ResidualForm

/-- The numerals of 32-bit numbers are read, and no other text. -/
theorem argumentNumber?_eq_some_iff {text : List Char} {n : Nat} :
    argumentNumber? text = some n ↔ Text.Numeral text n ∧ n < 2 ^ 32 :=
  Text.unsigned?_trim_eq_some_iff

theorem argumentNumber?_digit {c : Char} (hc : c.isDigit = true) :
    argumentNumber? [c] = some (Text.decimalValue [c]) := by
  have hval : 48 ≤ c.toNat ∧ c.toNat ≤ 57 := Char.isDigit_iff_toNat.1 hc
  have hsmall : Text.decimalValue [c] < 2 ^ 32 := by
    show 0 * 10 + (c.toNat - 48) < 2 ^ 32
    omega
  have hblank : ∀ x ∈ ([] : List Char), Text.isBlank x = true := List.forall_mem_nil _
  refine argumentNumber?_eq_some_iff.2 ⟨?_, hsmall⟩
  rw [Text.decimalValue_eq_ofDigits]
  exact @Text.Numeral.written [] [] [c] [] hblank (.inl rfl) (List.cons_ne_nil _ _)
    (List.forall_mem_singleton.2 hc) hblank

namespace Request

/-- The residuals are binary, the length of one is a power of two, and the argument number is not
above its exponent. -/
def Solvable (r : Request) : Prop :=
  Binary r.zero ∧ Binary r.one ∧ ∃ n, r.zero.length = 2 ^ n ∧ Text.decimalValue r.argument ≤ n

/-- The function has the residuals of the request. -/
def SolvedBy (r : Request) (f : TruthVector) : Prop :=
  (f.residual (Text.decimalValue r.argument) false).map (List.map symbol) = .ok r.zero ∧
    (f.residual (Text.decimalValue r.argument) true).map (List.map symbol) = .ok r.one

variable {r : Request} {c : Char}

/-- A number that has been read leaves the answer to the residuals. -/
theorem reconstruct_of_read {n : Nat} (hn : argumentNumber? r.argument = some n) :
    r.reconstruct =
      match TruthVector.ofResiduals r.zero r.one n with
      | .ok f => .function (String.ofList f.digits)
      | .error e => .failure (.rejected e.message) := by
  cases hf : TruthVector.ofResiduals r.zero r.one n with
  | ok f => simp only [reconstruct, hn, hf]
  | error e => simp only [reconstruct, hn, hf]

theorem reconstruct_digit (ha : r.argument = [c]) (hc : c.isDigit = true) :
    r.reconstruct =
      match TruthVector.ofResiduals r.zero r.one (Text.decimalValue r.argument) with
      | .ok f => .function (String.ofList f.digits)
      | .error e => .failure (.rejected e.message) := by
  apply reconstruct_of_read
  rw [ha, argumentNumber?_digit hc]

theorem reconstruct_of_solvable (ha : r.argument = [c]) (hc : c.isDigit = true)
    (hl : r.one.length = r.zero.length) (h : r.Solvable) :
    ∃ f, r.reconstruct = .function (String.ofList f.digits) ∧ r.SolvedBy f := by
  obtain ⟨hz, ho, hn⟩ := h
  obtain ⟨f, hf, hres⟩ := TruthVector.Residuals.ofResiduals ⟨hz, ho, hl, hn⟩
  exact ⟨f, by rw [reconstruct_digit ha hc, hf], hres⟩

/-- Whatever the argument number is written like, a function is given for its residuals only. -/
theorem residuals_of_reconstruct {digits : String} (h : r.reconstruct = .function digits) :
    ∃ argument, argumentNumber? r.argument = some argument ∧
      TruthVector.Residuals r.zero r.one argument := by
  rw [reconstruct] at h
  split at h
  · cases h
  · rename_i argument hn
    split at h
    · rename_i f hf
      exact ⟨argument, hn, TruthVector.residuals_of_ofResiduals hf⟩
    · cases h

theorem solvable_of_reconstruct (ha : r.argument = [c]) (hc : c.isDigit = true) {digits : String}
    (h : r.reconstruct = .function digits) : r.Solvable := by
  obtain ⟨argument, hargument, hz, ho, -, hn⟩ := residuals_of_reconstruct h
  rw [ha, argumentNumber?_digit hc, ← ha] at hargument
  cases hargument
  exact ⟨hz, ho, hn⟩

end Request
end ResidualForm
