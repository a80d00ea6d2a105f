import ResidualForm.Proofs.Service

/-!
# ResidualForm.Proofs.Service.Argument

The answer to a request, told by what the argument number is written like (`Text.Numeral`). A numeral
of a 32-bit number is read, and the residuals decide. Any other text is refused before the residuals
are looked at, and the refusal quotes it as it stands (`Request.notANumber`). No other refusal reads
like this one (`VectorError.message_ne_quoted`), so the answer tells whether there was a number.
-/

namespace ResidualForm

theorem VectorError.message_ne_quoted (e : VectorError) (quoted : List Char) :
    e.message ≠ s!"argument number '{String.ofList quoted}' is not a number" := by
  cases e with
  | argumentOutOfRange argument greatest =>
    dsimp only [message]
    apply mt (congrArg String.toList)
    -- where one has a digit, the other has a quote
    cases hdigits : Nat.toDigits 10 argument with
    | nil => exact absurd hdigits Nat.toDigits_ne_nil
    | cons c rest =>
      have hmem : c ∈ Nat.toDigits 10 argument := hdigits ▸ List.mem_cons_self
      have hc : c ≠ '\'' := by
        rintro rfl
        exact absurd (Nat.isDigit_of_mem_toDigits (by decide) (Nat.le_refl 10) hmem) (by decide)
      simp [toString, hdigits, hc]
  | _ =>
    dsimp only [message]
    apply mt (congrArg String.toList)
    simp [toString]

namespace Request

/-- The refusal of an argument number that is none. -/
def notANumber (r : Request) : Failure :=
  .rejected s!"argument number '{String.ofList r.argument}' is not a number"

theorem reconstruct_of_unread {r : Request} (h : argumentNumber? r.argument = none) :
    r.reconstruct = .failure r.notANumber := by
  simp only [reconstruct, h, notANumber]

/-- For every request: where the argument number is a numeral of a 32-bit number, the answer is the
function that has the two residuals for that argument, if there is one, and otherwise a refusal that
says what is wrong with them. Where it is not, and just then, the answer is a refusal that quotes it,
whatever the residuals are. -/
theorem reconstruct_reads_numeral (r : Request) :
    (∀ n, Text.Numeral r.argument n → n < 2 ^ 32 →
      (∀ vector, r.reconstruct = .function vector ↔
        ∃ f, TruthVector.ofResiduals r.zero r.one n = .ok f ∧ String.ofList f.digits = vector) ∧
      ∀ e, TruthVector.ofResiduals r.zero r.one n = .error e →
        r.reconstruct = .failure (.rejected e.message)) ∧
    (r.reconstruct = .failure r.notANumber ↔
      ∀ n, Text.Numeral r.argument n → 2 ^ 32 ≤ n) := by
  constructor
  · intro n hnumeral hbound
    rw [reconstruct_of_read (argumentNumber?_eq_some_iff.2 ⟨hnumeral, hbound⟩)]
    cases TruthVector.ofResiduals r.zero r.one n with
    | ok f => simp
    | error e => simp
  · constructor
    · intro hrefused n hnumeral
      by_contra hbound
      have hread := argumentNumber?_eq_some_iff.2 ⟨hnumeral, Nat.lt_of_not_le hbound⟩
      rw [reconstruct_of_read hread] at hrefused
      split at hrefused
      · cases hrefused
      · rename_i e he
        have hmessage := Failure.rejected.inj (Answer.failure.inj hrefused)
        exact e.message_ne_quoted r.argument hmessage
    · intro h
      apply reconstruct_of_unread
      rw [Option.eq_none_iff_forall_ne_some]
      intro n hn
      obtain ⟨hnumeral, hbound⟩ := argumentNumber?_eq_some_iff.1 hn
      exact absurd (h n hnumeral) (Nat.not_le_of_lt hbound)

/-- An ideographic space, a plus sign, zeros and a line end do no harm, but one more than the greatest
32-bit number is refused. -/
theorem reconstruct_reads_numeral_padded :
    let r : Request := ⟨"0011".toList, "0101".toList, "\u3000+0001\n".toList⟩
    let r' : Request := { r with argument := "4294967296".toList }
    Text.Numeral r.argument 1 ∧ 1 < 2 ^ 32 ∧ r.reconstruct = .function "00011101" ∧
      (∃ f, TruthVector.ofResiduals r.zero r.one 1 = .ok f ∧ String.ofList f.digits = "00011101") ∧
      r'.reconstruct = .failure r'.notANumber ∧ ∀ n, Text.Numeral r'.argument n → 2 ^ 32 ≤ n := by
  intro r r'
  have hbound : 1 < 2 ^ 32 := by decide
  have hnumeral : Text.Numeral r.argument 1 :=
    @Text.Numeral.written ['\u3000'] ['+'] "0001".toList ['\n'] (List.all_eq_true.1 (by decide))
      (.inr rfl) (by decide) (List.all_eq_true.1 (by decide)) (List.all_eq_true.1 (by decide))
  have hanswer : r.reconstruct = .function "00011101" := by decide +kernel
  have hrefused : r'.reconstruct = .failure r'.notANumber := by decide +kernel
  obtain ⟨hread, -⟩ := reconstruct_reads_numeral r
  obtain ⟨-, hunread⟩ := reconstruct_reads_numeral r'
  exact ⟨hnumeral, hbound, hanswer, ((hread 1 hnumeral hbound).1 _).1 hanswer, hrefused,
    hunread.1 hrefused⟩

end Request
end ResidualForm
