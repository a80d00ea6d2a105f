import Mathlib.Data.List.DropRight
import Mathlib.Data.Nat.Digits.Defs
import ResidualForm.Text.Blank
import ResidualForm.Text.Decimal

/-!
# ResidualForm.Proofs.Text.Numeral

The texts that are read as numbers.

* `Numeral`                       — what a number may be written like, and which number that is.
* `trim_append`, `exists_trim`    — trimming takes off the blanks at both ends, and nothing else.
* `unsigned?_trim_eq_some_iff`    — the numerals of numbers below the bound are read, and no other text.
-/

namespace ResidualForm
namespace Text

/-- A numeral: digits, one at least and with any number of zeros in front, perhaps a plus sign before
them, and blanks around both. -/
inductive Numeral : List Char → Nat → Prop where
  | written {lead sign digits trail : List Char} :
      (∀ c ∈ lead, isBlank c = true) → sign = [] ∨ sign = ['+'] →
      digits ≠ [] → (∀ c ∈ digits, c.isDigit = true) → (∀ c ∈ trail, isBlank c = true) →
      Numeral (lead ++ (sign ++ digits) ++ trail) (Nat.ofDigits 10 (digits.map digitValue).reverse)

/-! ## Blanks -/

theorem isBlank_of_isDigit {c : Char} (hc : c.isDigit = true) : isBlank c = false := by
  have hval : 48 ≤ c.toNat ∧ c.toNat ≤ 57 := Char.isDigit_iff_toNat.1 hc
  simp [isBlank, Ranges.has, blankCharacters]
  omega

theorem trim_append {lead core trail : List Char} (hlead : ∀ c ∈ lead, isBlank c = true)
    (hne : core ≠ []) (hcore : ∀ c ∈ core, isBlank c = false)
    (htrail : ∀ c ∈ trail, isBlank c = true) : trim (lead ++ core ++ trail) = core := by
  have hstart : (lead ++ core ++ trail).dropWhile isBlank = core ++ trail := by
    rw [List.append_assoc, List.dropWhile_append_of_pos hlead]
    cases core with
    | nil => exact absurd rfl hne
    | cons c rest => simp [hcore c List.mem_cons_self]
  have hend : (core ++ trail).reverse.dropWhile isBlank = core.reverse := by
    rw [List.reverse_append, List.dropWhile_append_of_pos (by simpa using htrail)]
    cases hr : core.reverse with
    | nil => rfl
    | cons c rest =>
      have hc : c ∈ core := by
        rw [← List.mem_reverse, hr]
        exact List.mem_cons_self
      simp [hcore c hc]
  rw [trim, hstart, hend, List.reverse_reverse]

theorem exists_trim (text : List Char) :
    ∃ lead trail, lead ++ trim text ++ trail = text ∧ (∀ c ∈ lead, isBlank c = true) ∧
      ∀ c ∈ trail, isBlank c = true := by
  refine ⟨text.takeWhile isBlank, (text.dropWhile isBlank).rtakeWhile isBlank, ?_,
    fun c => List.mem_takeWhile_imp, fun c => List.mem_rtakeWhile_imp⟩
  show _ ++ (text.dropWhile isBlank).rdropWhile isBlank ++ _ = text
  rw [List.append_assoc, List.rdropWhile_append_rtakeWhile, List.takeWhile_append_dropWhile]

/-! ## Digits -/

/-- Reading from the left, digit by digit, gives what the digits stand for. -/
theorem decimalValue_eq_ofDigits (digits : List Char) :
    decimalValue digits = Nat.ofDigits 10 (digits.map digitValue).reverse := by
  rw [Nat.ofDigits_eq_foldr, List.foldr_reverse, List.foldl_map, decimalValue]
  congr
  funext value c
  rw [Nat.cast_id, Nat.add_comm, Nat.mul_comm]

theorem decimal?_eq_some_iff {digits : List Char} {n : Nat} :
    decimal? digits = some n ↔
      digits ≠ [] ∧ (∀ c ∈ digits, c.isDigit = true) ∧ decimalValue digits = n := by
  simp [decimal?, Option.ite_none_left_eq_some, and_assoc]

/-- No digit is a plus sign, so a sign is never taken for the first digit. -/
theorem unsigned?_eq_some_iff {bound : Nat} {text : List Char} {n : Nat} :
    unsigned? bound text = some n ↔
      ∃ sign digits, sign ++ digits = text ∧ (sign = [] ∨ sign = ['+']) ∧
        decimal? digits = some n ∧ n < bound := by
  constructor
  · intro h
    obtain ⟨hdigits, hbound⟩ := Option.filter_eq_some_iff.1 h
    rw [decide_eq_true_eq] at hbound
    split at hdigits
    · exact ⟨['+'], _, rfl, .inr rfl, hdigits, hbound⟩
    · exact ⟨[], _, rfl, .inl rfl, hdigits, hbound⟩
  · rintro ⟨sign, digits, rfl, hsign, hdigits, hbound⟩
    refine Option.filter_eq_some_iff.2 ⟨?_, decide_eq_true hbound⟩
    rcases hsign with rfl | rfl
    · split
      · rename_i rest heq
        have hplus : Char.isDigit '+' = true := by
          apply (decimal?_eq_some_iff.1 hdigits).2.1
          rw [← List.nil_append digits, heq]
          exact List.mem_cons_self
        exact absurd hplus (by decide)
      · exact hdigits
    · exact hdigits

theorem unsigned?_trim_eq_some_iff {bound : Nat} {text : List Char} {n : Nat} :
    unsigned? bound (trim text) = some n ↔ Numeral text n ∧ n < bound := by
  constructor
  · intro h
    obtain ⟨sign, digits, htext, hsign, hdigits, hbound⟩ := unsigned?_eq_some_iff.1 h
    obtain ⟨hne, hall, rfl⟩ := decimal?_eq_some_iff.1 hdigits
    obtain ⟨lead, trail, hsplit, hlead, htrail⟩ := exists_trim text
    refine ⟨?_, hbound⟩
    rw [← hsplit, ← htext, decimalValue_eq_ofDigits]
    exact .written hlead hsign hne hall htrail
  · rintro ⟨hnumeral, hbound⟩
    cases hnumeral with
    | @written lead sign digits trail hlead hsign hne hall htrail =>
      rw [← decimalValue_eq_ofDigits] at hbound ⊢
      have hcore : ∀ c ∈ sign ++ digits, isBlank c = false := by
        intro c hc
        rcases List.mem_append.1 hc with hc | hc
        · rcases hsign with rfl | rfl
          · exact absurd hc List.not_mem_nil
          · rw [List.mem_singleton.1 hc]
            decide
        · exact isBlank_of_isDigit (hall c hc)
      rw [trim_append hlead (List.append_ne_nil_of_right_ne_nil sign hne) hcore htrail,
        unsigned?_eq_some_iff]
      exact ⟨sign, digits, rfl, hsign, decimal?_eq_some_iff.2 ⟨hne, hall, rfl⟩, hbound⟩

end Text
end ResidualForm
