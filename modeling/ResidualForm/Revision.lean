/-!
# ResidualForm.Revision

Numbers for the successive contents of the form. They are 64-bit numbers; the last one has no
successor and stays.
-/

namespace ResidualForm

structure Revision where
  number : Nat
  number_lt : number < 0x10000000000000000
  deriving DecidableEq, Repr

namespace Revision

def first : Revision :=
  ⟨0, by decide⟩

def greatest : Revision :=
  ⟨0xFFFFFFFFFFFFFFFF, by decide⟩

/-- The revision with a given number, or the greatest one if there is none. -/
def ofNumber (n : Nat) : Revision :=
  if h : n < 0x10000000000000000 then ⟨n, h⟩ else greatest

def next (r : Revision) : Revision :=
  ofNumber (r.number + 1)

theorem number_ofNumber {n : Nat} (h : n ≤ greatest.number) : (ofNumber n).number = n := by
  have : n < 0x10000000000000000 := Nat.lt_succ_of_le h
  simp [ofNumber, this]

/-- Every revision but the greatest has a successor. -/
theorem number_next {r : Revision} (h : r.number < greatest.number) :
    r.next.number = r.number + 1 :=
  number_ofNumber h

theorem number_next_of_le {r : Revision} (h : greatest.number ≤ r.number) :
    r.next.number = greatest.number := by
  have hge : ¬ r.number + 1 < 0x10000000000000000 := Nat.not_lt_of_le (Nat.succ_le_succ h)
  rw [next, ofNumber, dif_neg hge]

theorem ofNumber_inj {m n : Nat} (hm : m ≤ greatest.number) (hn : n ≤ greatest.number) :
    ofNumber m = ofNumber n ↔ m = n := by
  constructor
  · intro h
    rw [← number_ofNumber hm, ← number_ofNumber hn, h]
  · rintro rfl; rfl

/-- Counting on from the greatest revision stays there, as numbering from a greater number does. -/
@[simp] theorem next_ofNumber (n : Nat) : (ofNumber n).next = ofNumber (n + 1) := by
  by_cases h : n < 0x10000000000000000
  · simp [next, ofNumber, h]
  · have h' : ¬ n + 1 < 0x10000000000000000 := by omega
    simp only [next, ofNumber, h, h', dif_neg, not_false_eq_true]
    rfl

end Revision
end ResidualForm
