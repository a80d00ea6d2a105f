/-!
# ResidualForm.TruthVector

Boolean functions as truth vectors, and the two ways between a function and its residuals.

Row `i` of a vector gives argument `k` the value of bit `k` of `i`, so arguments are numbered from
0, right to left. Fixing an argument (`residual`) keeps the rows where its bit has the given value;
`ofResiduals` deals the rows of both residuals back out by that bit.
-/

namespace ResidualForm

/-- The number of rows of a function with so many arguments: two to that power. -/
def rowCount : Nat → Nat
  | 0 => 1
  | n + 1 => 2 * rowCount n

/-- A value for each row; there is one argument at least. -/
structure TruthVector where
  rows : List Bool
  arguments : Nat
  length_rows : rows.length = rowCount arguments
  arguments_pos : 0 < arguments
  deriving DecidableEq, Repr

inductive VectorError where
  | notBinary
  | badLength (length : Nat)
  | lengthMismatch (zeroLength oneLength : Nat)
  | argumentOutOfRange (argument greatest : Nat)
  deriving DecidableEq, Repr

def VectorError.message : VectorError → String
  | .notBinary => "function must consist of 0 and 1 only"
  | .badLength length => s!"function length {length} is not a power of two"
  | .lengthMismatch zeroLength oneLength =>
    s!"residual lengths differ ({zeroLength} vs {oneLength})"
  | .argumentOutOfRange argument greatest =>
    s!"argument number {argument} is out of range (max {greatest})"

def symbol (value : Bool) : Char :=
  if value then '1' else '0'

/-- The values a text of binary digits stands for. -/
def values? : List Char → Option (List Bool)
  | [] => some []
  | '0' :: rest => (values? rest).map (false :: ·)
  | '1' :: rest => (values? rest).map (true :: ·)
  | _ :: _ => none

@[simp] theorem values?_map_symbol (values : List Bool) :
    values? (values.map symbol) = some values := by
  induction values with
  | nil => rfl
  | cons v rest ih => cases v <;> simp [symbol, values?, ih]

theorem map_symbol_of_values? {text : List Char} {values : List Bool}
    (h : values? text = some values) : values.map symbol = text := by
  fun_induction values? text generalizing values with
  | case1 => simp_all
  | case2 rest ih =>
    obtain ⟨vs, hvs, rfl⟩ := Option.map_eq_some_iff.1 h
    simp [symbol, ih hvs]
  | case3 rest ih =>
    obtain ⟨vs, hvs, rfl⟩ := Option.map_eq_some_iff.1 h
    simp [symbol, ih hvs]
  | case4 => simp at h

namespace TruthVector

def argumentCount? (length : Nat) : Option Nat :=
  if 2 ≤ length ∧ rowCount length.log2 = length then some length.log2 else none

theorem argumentCount?_eq_some {length n : Nat} (h : argumentCount? length = some n) :
    length = rowCount n ∧ 0 < n := by
  unfold argumentCount? at h
  split at h
  · next hl =>
    obtain rfl := Option.some.inj h
    refine ⟨hl.2.symm, ?_⟩
    rcases Nat.eq_zero_or_pos length.log2 with h0 | h0
    · rw [h0, rowCount] at hl; omega
    · exact h0
  · cases h

def ofRows (rows : List Bool) : Except VectorError TruthVector :=
  match h : argumentCount? rows.length with
  | none => .error (.badLength rows.length)
  | some n => .ok ⟨rows, n, (argumentCount?_eq_some h).1, (argumentCount?_eq_some h).2⟩

def parse (text : List Char) : Except VectorError TruthVector :=
  match values? text with
  | none => .error .notBinary
  | some rows => ofRows rows

def digits (f : TruthVector) : List Char :=
  f.rows.map symbol

/-- The rows whose index has the given bit, in order. -/
def rowsWhere (argument : Nat) (value : Bool) (rows : List Bool) : List Bool :=
  (rows.zipIdx.filter fun row => row.2.testBit argument == value).map Prod.fst

/-- The function with `argument` fixed to `value`; it may be a single value. -/
def residual (f : TruthVector) (argument : Nat) (value : Bool) : Except VectorError (List Bool) :=
  if argument < f.arguments then .ok (rowsWhere argument value f.rows)
  else .error (.argumentOutOfRange argument (f.arguments - 1))

/-- Deals values out to the rows listed: from `one` where the bit is set, else from `zero`. -/
def weave (argument : Nat) : List Nat → List Bool → List Bool → List Bool
  | [], _, _ => []
  | row :: rows, zero, one =>
    if row.testBit argument then one.headD false :: weave argument rows zero one.tail
    else zero.headD false :: weave argument rows zero.tail one

@[simp] theorem length_weave (argument : Nat) (rows : List Nat) (zero one : List Bool) :
    (weave argument rows zero one).length = rows.length := by
  induction rows generalizing zero one with
  | nil => rfl
  | cons row rows ih => simp only [weave]; split <;> simp [ih]

def ofResidualValues (zero one : List Bool) (argument : Nat) : Except VectorError TruthVector :=
  if zero.length ≠ one.length then .error (.lengthMismatch zero.length one.length)
  else
    match h : argumentCount? (zero.length * 2) with
    | none => .error (.badLength (zero.length * 2))
    | some n =>
      if argument < n then
        .ok ⟨weave argument (List.range (zero.length * 2)) zero one, n,
          by rw [length_weave, List.length_range]; exact (argumentCount?_eq_some h).1,
          (argumentCount?_eq_some h).2⟩
      else .error (.argumentOutOfRange argument (n - 1))

def ofResiduals (zero one : List Char) (argument : Nat) : Except VectorError TruthVector :=
  match values? zero, values? one with
  | some zero, some one => ofResidualValues zero one argument
  | _, _ => .error .notBinary

end TruthVector
end ResidualForm
