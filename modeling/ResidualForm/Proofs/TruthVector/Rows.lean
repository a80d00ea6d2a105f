import Mathlib.Tactic.SplitIfs
import ResidualForm.Proofs.TruthVector

/-!
# ResidualForm.Proofs.TruthVector.Rows

What putting a function together does, row by row, and when it is refused.

`deal?` is the loop with one cursor into each residual, where every index is checked: there is no
result once a residual is read past its end. It always has one for texts from which a function can
be put together, and `weave` gives the same symbols.

* `rank_testBit`        — before a row, as many rows have the same bit as the row's index says once
  that bit is deleted.
* `Dealing.UpTo.row?`   — one row: the cursor that moves stands at that index, inside its residual.
* `upTo_deal?`          — all rows, by induction on their number.
* `text_eq_weave`       — a loop that gets through has put down what `weave` does.
* `ofResiduals_by_rows` — which texts are accepted, what the others are told, and every row of the
  function.
-/

namespace ResidualForm
namespace TruthVector

/-- The index of a row without one of its bits: those above it move down. -/
def deleteBit (argument row : Nat) : Nat :=
  (row >>> (argument + 1)) * 2 ^ argument + row % 2 ^ argument

/-- How many of the rows before this one have the given bit. -/
def rank (argument : Nat) (value : Bool) (row : Nat) : Nat :=
  (List.range row).countP fun earlier => earlier.testBit argument == value

theorem rank_succ (argument : Nat) (value : Bool) (row : Nat) :
    rank argument value (row + 1) =
      rank argument value row + if row.testBit argument == value then 1 else 0 := by
  rw [rank, List.range_succ, List.countP_append, List.countP_singleton]
  rfl

/-- Within a block of rows that agree above the bit, it is clear in the first half and set in the
second. -/
theorem testBit_block (argument block : Nat) {offset : Nat} (h : offset < 2 ^ (argument + 1)) :
    (2 ^ (argument + 1) * block + offset).testBit argument = decide (2 ^ argument ≤ offset) := by
  rw [Nat.testBit_two_pow_mul_add block h, if_pos (Nat.lt_succ_self argument)]
  by_cases hle : 2 ^ argument ≤ offset
  · rw [Nat.testBit_of_two_pow_le_and_two_pow_add_one_gt hle h, decide_eq_true hle]
  · rw [Nat.testBit_lt_two_pow (Nat.lt_of_not_le hle), decide_eq_false hle]

/-- How many of the first rows of a block have the given bit. -/
theorem rank_offset (argument block : Nat) (value : Bool) {offset : Nat}
    (h : offset ≤ 2 ^ (argument + 1)) :
    rank argument value (2 ^ (argument + 1) * block + offset) =
      rank argument value (2 ^ (argument + 1) * block) +
        if value then offset - 2 ^ argument else min offset (2 ^ argument) := by
  induction offset with
  | zero => cases value <;> simp
  | succ offset ih =>
    rw [← Nat.add_assoc, rank_succ, ih (Nat.le_of_succ_le h), testBit_block argument block h,
      Nat.add_assoc]
    congr 1
    by_cases hle : 2 ^ argument ≤ offset
    · cases value <;> simp [hle] <;> omega
    · cases value <;> simp [hle] <;> omega

/-- Of every whole block, one half has the given bit. -/
theorem rank_block (argument block : Nat) (value : Bool) :
    rank argument value (2 ^ (argument + 1) * block) = 2 ^ argument * block := by
  induction block with
  | zero => rfl
  | succ block ih =>
    have hhalf : (if value then 2 ^ (argument + 1) - 2 ^ argument
        else min (2 ^ (argument + 1)) (2 ^ argument)) = 2 ^ argument := by
      rw [Nat.pow_succ]
      cases value
      · exact Nat.min_eq_right (by omega)
      · exact Nat.sub_eq_of_eq_add (by omega)
    rw [Nat.mul_succ, rank_offset argument block value (Nat.le_refl _), ih, hhalf, Nat.mul_succ]

theorem deleteBit_block (argument block : Nat) {offset : Nat} (h : offset < 2 ^ (argument + 1)) :
    deleteBit argument (2 ^ (argument + 1) * block + offset) =
      2 ^ argument * block + offset % 2 ^ argument := by
  have hblock : (2 ^ (argument + 1) * block + offset) >>> (argument + 1) = block := by
    rw [Nat.shiftRight_eq_div_pow, Nat.mul_add_div (Nat.two_pow_pos _), Nat.div_eq_of_lt h,
      Nat.add_zero]
  have hoffset : (2 ^ (argument + 1) * block + offset) % 2 ^ argument = offset % 2 ^ argument := by
    rw [Nat.pow_succ, Nat.mul_assoc, Nat.mul_add_mod]
  rw [deleteBit, hblock, hoffset, Nat.mul_comm]

/-- The rows before this one with the same bit are as many as the row's index says without it. -/
theorem rank_testBit (argument row : Nat) :
    rank argument (row.testBit argument) row = deleteBit argument row := by
  -- the rows of the blocks before this one, half of each, and those of this block
  obtain ⟨block, offset, hoffset, rfl⟩ : ∃ block offset, offset < 2 ^ (argument + 1) ∧
      row = 2 ^ (argument + 1) * block + offset :=
    ⟨_, _, Nat.mod_lt row (Nat.two_pow_pos _), (Nat.div_add_mod row _).symm⟩
  rw [rank_offset argument block _ (Nat.le_of_lt hoffset), rank_block,
    deleteBit_block argument block hoffset, testBit_block argument block hoffset]
  congr 1
  by_cases hle : 2 ^ argument ≤ offset
  · have hlt : offset - 2 ^ argument < 2 ^ argument := by
      rw [Nat.pow_succ] at hoffset
      omega
    rw [decide_eq_true hle, if_pos rfl, Nat.mod_eq_sub_mod hle, Nat.mod_eq_of_lt hlt]
  · have hlt := Nat.lt_of_not_le hle
    rw [decide_eq_false hle, if_neg Bool.false_ne_true, Nat.min_eq_left (Nat.le_of_lt hlt),
      Nat.mod_eq_of_lt hlt]

/-- The index without the bit is that of a row of a residual. -/
theorem deleteBit_lt {argument n row : Nat} (ha : argument ≤ n) (hrow : row < 2 ^ (n + 1)) :
    deleteBit argument row < 2 ^ n := by
  rw [← rank_testBit, ← countP_testBit ha (row.testBit argument), Nat.lt_iff_add_one_le]
  calc rank argument (row.testBit argument) row + 1
      = rank argument (row.testBit argument) (row + 1) := by
        rw [rank_succ, if_pos (beq_self_eq_true _)]
    _ ≤ _ := (List.range_sublist.2 hrow).countP_le

theorem Residuals.deleteBit_lt {zero one : List Char} {argument row : Nat}
    (h : Residuals zero one argument) (hrow : row < 2 * zero.length) :
    deleteBit argument row < zero.length := by
  obtain ⟨-, -, -, n, hn, ha⟩ := h
  rw [hn] at hrow ⊢
  exact TruthVector.deleteBit_lt ha (by rwa [Nat.pow_succ, Nat.mul_comm])

/-- How far both residuals have been read, and what has been put down so far. -/
structure Dealing where
  zeroCursor : Nat
  oneCursor : Nat
  text : List Char
  deriving DecidableEq, Repr

namespace Dealing

/-- One row: the next symbol of the residual its bit chooses, if there is one more. -/
def row? (zero one : List Char) (argument : Nat) (d : Dealing) (row : Nat) : Option Dealing :=
  if row / (1 <<< argument) &&& 1 = 0 then
    zero[d.zeroCursor]?.map fun c => ⟨d.zeroCursor + 1, d.oneCursor, d.text ++ [c]⟩
  else
    one[d.oneCursor]?.map fun c => ⟨d.zeroCursor, d.oneCursor + 1, d.text ++ [c]⟩

/-- The cursor into the residual with this value. -/
def cursor (d : Dealing) (value : Bool) : Nat :=
  if value then d.oneCursor else d.zeroCursor

/-- A symbol of the residual with this value has been read and put down. -/
def put (d : Dealing) (value : Bool) (c : Char) : Dealing :=
  if value then ⟨d.zeroCursor, d.oneCursor + 1, d.text ++ [c]⟩
  else ⟨d.zeroCursor + 1, d.oneCursor, d.text ++ [c]⟩

@[simp] theorem text_put (d : Dealing) (value : Bool) (c : Char) :
    (d.put value c).text = d.text ++ [c] := by
  cases value <;> rfl

@[simp] theorem cursor_put (d : Dealing) (value : Bool) (c : Char) (other : Bool) :
    (d.put value c).cursor other = d.cursor other + if value == other then 1 else 0 := by
  cases value <;> cases other <;> rfl

theorem row?_eq (zero one : List Char) (argument : Nat) (d : Dealing) (row : Nat) :
    d.row? zero one argument row =
      (if row.testBit argument then one else zero)[d.cursor (row.testBit argument)]?.map
        (d.put (row.testBit argument)) := by
  have hbit : (row / (1 <<< argument) &&& 1 = 0) ↔ row.testBit argument = false := by
    rw [Nat.one_shiftLeft, Nat.and_one_is_mod, Nat.testBit_eq_decide_div_mod_eq,
      decide_eq_false_iff_not]
    omega
  rw [row?]
  cases hb : row.testBit argument with
  | false => rw [if_pos (hbit.2 hb)]; rfl
  | true => rw [if_neg (by rw [hbit, hb]; decide)]; rfl

/-- What holds once so many rows have been dealt out. -/
structure UpTo (zero one : List Char) (argument rows : Nat) (d : Dealing) : Prop where
  cursor_eq : ∀ value, d.cursor value = rank argument value rows
  length_text : d.text.length = rows
  text_getElem? : ∀ row < rows,
    d.text[row]? = (if row.testBit argument then one else zero)[deleteBit argument row]?

theorem UpTo.row? {zero one : List Char} {argument row : Nat} {d : Dealing}
    (h : d.UpTo zero one argument row)
    (hlt : deleteBit argument row < (if row.testBit argument then one else zero).length) :
    ∃ next, d.row? zero one argument row = some next ∧ next.UpTo zero one argument (row + 1) := by
  have hcursor : d.cursor (row.testBit argument) = deleteBit argument row := by
    rw [h.cursor_eq, rank_testBit]
  have hread := List.getElem?_eq_getElem hlt
  refine ⟨_, by rw [row?_eq, hcursor, hread, Option.map_some], ?_, ?_, ?_⟩
  · intro value
    rw [cursor_put, h.cursor_eq, rank_succ]
  · rw [text_put, List.length_append, h.length_text, List.length_singleton]
  · intro earlier hearlier
    rw [text_put]
    rcases Nat.lt_succ_iff_lt_or_eq.1 hearlier with hbefore | rfl
    · rw [List.getElem?_append_left (by rw [h.length_text]; exact hbefore)]
      exact h.text_getElem? earlier hbefore
    · rw [List.getElem?_append_right (Nat.le_of_eq h.length_text), h.length_text, Nat.sub_self,
        hread]
      rfl

end Dealing

/-- The first rows, from the start of both residuals. -/
def deal? (zero one : List Char) (argument rows : Nat) : Option Dealing :=
  (List.range rows).foldlM (Dealing.row? zero one argument) ⟨0, 0, []⟩

theorem deal?_succ (zero one : List Char) (argument rows : Nat) :
    deal? zero one argument (rows + 1) =
      (deal? zero one argument rows).bind fun d => d.row? zero one argument rows := by
  rw [deal?, List.range_succ, List.foldlM_append]
  simp only [List.foldlM_cons, List.foldlM_nil, bind_pure]
  rfl

theorem upTo_deal? {zero one : List Char} {argument : Nat} (hr : Residuals zero one argument)
    {rows : Nat} (hrows : rows ≤ 2 * zero.length) :
    ∃ d, deal? zero one argument rows = some d ∧ d.UpTo zero one argument rows := by
  induction rows with
  | zero =>
    refine ⟨_, rfl, ?_, rfl, fun row hrow => absurd hrow (Nat.not_lt_zero row)⟩
    intro value
    cases value <;> rfl
  | succ row ih =>
    obtain ⟨d, hd, hup⟩ := ih (Nat.le_of_succ_le hrows)
    -- both residuals are long enough, so it does not matter which of them the row's bit chooses
    have hlt := hr.deleteBit_lt (Nat.lt_of_succ_le hrows)
    have hlen := hr.2.2.1
    obtain ⟨next, hnext, hup'⟩ := hup.row? (by split <;> omega)
    exact ⟨next, by rw [deal?_succ, hd, Option.bind_some, hnext], hup'⟩

/-- What is read off a text of digits is a digit, and what is left are digits again. -/
theorem exists_digit_of_getElem? {text : List Char} {k : Nat} {values : List Bool} {c : Char}
    (hrest : text.drop k = values.map symbol) (hc : text[k]? = some c) :
    ∃ v rest, values = v :: rest ∧ c = symbol v ∧ text.drop (k + 1) = rest.map symbol := by
  have hhead : (values.map symbol)[0]? = some c := by
    rw [← hrest, List.getElem?_drop, Nat.add_zero, hc]
  cases values with
  | nil => cases hhead
  | cons v rest =>
    refine ⟨v, rest, rfl, (Option.some.inj hhead).symm, ?_⟩
    rw [← List.tail_drop, hrest]
    rfl

/-- A loop that gets through these rows has put down what `weave` deals out to them. -/
theorem text_eq_weave {zero one : List Char} {argument : Nat} {rows : List Nat} {d d' : Dealing}
    (h : rows.foldlM (Dealing.row? zero one argument) d = some d') {zs os : List Bool}
    (hz : zero.drop (d.cursor false) = zs.map symbol)
    (ho : one.drop (d.cursor true) = os.map symbol) :
    d'.text = d.text ++ (weave argument rows zs os).map symbol := by
  induction rows generalizing d zs os with
  | nil =>
    obtain rfl := Option.some.inj h
    exact (List.append_nil _).symm
  | cons row rows ih =>
    rw [List.foldlM_cons] at h
    obtain ⟨next, hnext, hrest⟩ := Option.bind_eq_some_iff.1 h
    rw [Dealing.row?_eq] at hnext
    obtain ⟨c, hc, rfl⟩ := Option.map_eq_some_iff.1 hnext
    -- the residual of the row's bit gets shorter, the other one keeps its cursor
    cases hb : row.testBit argument with
    | false =>
      rw [hb] at hc hrest
      obtain ⟨v, zs, rfl, rfl, hz'⟩ := exists_digit_of_getElem? hz hc
      rw [ih hrest (by simpa using hz') (by simpa using ho), Dealing.text_put, weave, hb]
      simp
    | true =>
      rw [hb] at hc hrest
      obtain ⟨v, os, rfl, rfl, ho'⟩ := exists_digit_of_getElem? ho hc
      rw [ih hrest (by simpa using hz) (by simpa using ho'), Dealing.text_put, weave, hb]
      simp

/-- What is wrong with texts that cannot be put together; what comes first is told. -/
def fault? (zero one : List Char) (argument : Nat) : Option VectorError :=
  if ¬ (Binary zero ∧ Binary one) then some .notBinary
  else if zero.length ≠ one.length then some (.lengthMismatch zero.length one.length)
  else if ¬ zero.length.isPowerOfTwo then some (.badLength (2 * zero.length))
  else if zero.length.log2 < argument then some (.argumentOutOfRange argument zero.length.log2)
  else none

theorem residuals_iff {zero one : List Char} {argument : Nat} :
    Residuals zero one argument ↔ Binary zero ∧ Binary one ∧ zero.length = one.length ∧
      zero.length.isPowerOfTwo ∧ argument ≤ zero.length.log2 := by
  constructor
  · rintro ⟨hz, ho, hlen, n, hn, ha⟩
    exact ⟨hz, ho, hlen.symm, ⟨n, hn⟩, by rwa [hn, Nat.log2_two_pow]⟩
  · rintro ⟨hz, ho, hlen, ⟨n, hn⟩, ha⟩
    exact ⟨hz, ho, hlen.symm, n, hn, by rwa [hn, Nat.log2_two_pow] at ha⟩

theorem fault?_eq_none_iff {zero one : List Char} {argument : Nat} :
    fault? zero one argument = none ↔ Residuals zero one argument := by
  rw [residuals_iff, fault?]
  split_ifs <;> simp_all

theorem argumentCount?_double {length : Nat} (h : ¬ length.isPowerOfTwo) :
    argumentCount? (length * 2) = none := by
  cases hcount : argumentCount? (length * 2) with
  | none => rfl
  | some n =>
    obtain ⟨hdouble, hpos⟩ := argumentCount?_eq_some_iff.1 hcount
    obtain ⟨m, rfl⟩ : ∃ m, n = m + 1 := ⟨n - 1, by omega⟩
    rw [Nat.pow_succ] at hdouble
    exact absurd ⟨m, by omega⟩ h

theorem ofResidualValues_of_length_ne {zero one : List Bool} {argument : Nat}
    (h : zero.length ≠ one.length) :
    ofResidualValues zero one argument = .error (.lengthMismatch zero.length one.length) :=
  if_pos h

theorem ofResidualValues_of_not_power {zero one : List Bool} {argument : Nat}
    (hlen : zero.length = one.length) (h : ¬ zero.length.isPowerOfTwo) :
    ofResidualValues zero one argument = .error (.badLength (2 * zero.length)) := by
  have hcount := argumentCount?_double h
  unfold ofResidualValues
  rw [if_neg (not_not_intro hlen)]
  split
  · rw [Nat.mul_comm]
  · rename_i n hsome
    rw [hcount] at hsome
    cases hsome

theorem ofResidualValues_of_out_of_range {zero one : List Bool} {argument n : Nat}
    (hlen : zero.length = one.length) (hn : zero.length = 2 ^ n) (h : n < argument) :
    ofResidualValues zero one argument = .error (.argumentOutOfRange argument n) := by
  have hcount : argumentCount? (zero.length * 2) = some (n + 1) :=
    argumentCount?_eq_some_iff.2 ⟨by rw [hn, Nat.pow_succ], Nat.succ_pos n⟩
  unfold ofResidualValues
  rw [if_neg (not_not_intro hlen)]
  split
  · rename_i hnone
    rw [hcount] at hnone
    cases hnone
  · rename_i m hsome
    rw [hcount] at hsome
    cases hsome
    rw [if_neg (by omega), Nat.add_sub_cancel]

theorem ofResiduals_of_not_binary {zero one : List Char} {argument : Nat}
    (h : ¬ (Binary zero ∧ Binary one)) : ofResiduals zero one argument = .error .notBinary := by
  unfold ofResiduals
  split
  · rename_i zs os hz ho
    obtain rfl := values?_eq_some_iff.1 hz
    obtain rfl := values?_eq_some_iff.1 ho
    exact absurd ⟨binary_map_symbol zs, binary_map_symbol os⟩ h
  · rfl

theorem ofResiduals_of_fault? {zero one : List Char} {argument : Nat} {e : VectorError}
    (h : fault? zero one argument = some e) : ofResiduals zero one argument = .error e := by
  by_cases hbinary : Binary zero ∧ Binary one
  · obtain ⟨zs, rfl⟩ := hbinary.1.exists_map_symbol
    obtain ⟨os, rfl⟩ := hbinary.2.exists_map_symbol
    rw [fault?, if_neg (not_not_intro hbinary), List.length_map, List.length_map] at h
    rw [ofResiduals_map_symbol]
    split_ifs at h with hlen hpower hrange
    · cases h
      exact ofResidualValues_of_length_ne hlen
    · cases h
      obtain ⟨n, hn⟩ := hpower
      rw [hn, Nat.log2_two_pow] at hrange ⊢
      exact ofResidualValues_of_out_of_range (Decidable.not_not.1 hlen) hn hrange
    · cases h
      exact ofResidualValues_of_not_power (Decidable.not_not.1 hlen) hpower
  · rw [fault?, if_pos hbinary] at h
    cases h
    exact ofResiduals_of_not_binary hbinary

theorem ofResiduals_eq_error_iff {zero one : List Char} {argument : Nat} {e : VectorError} :
    ofResiduals zero one argument = .error e ↔ fault? zero one argument = some e := by
  refine ⟨fun h => ?_, ofResiduals_of_fault?⟩
  cases hfault : fault? zero one argument with
  | none =>
    obtain ⟨f, hf, -⟩ := (fault?_eq_none_iff.1 hfault).ofResiduals
    rw [hf] at h
    cases h
  | some e' =>
    rw [ofResiduals_of_fault? hfault] at h
    cases h
    rfl

theorem take_weave (argument : Nat) (rows : List Nat) (zs os : List Bool) (k : Nat) :
    (weave argument rows zs os).take k = weave argument (rows.take k) zs os := by
  induction rows generalizing zs os k with
  | nil => rw [List.take_nil, weave, List.take_nil]
  | cons row rows ih =>
    cases k with
    | zero => rfl
    | succ k =>
      rw [List.take_succ_cons, weave, weave]
      split
      · rw [List.take_succ_cons, ih]
      · rw [List.take_succ_cons, ih]

theorem weave_of_ofResiduals {zero one : List Char} {argument : Nat} {f : TruthVector}
    (h : ofResiduals zero one argument = .ok f) :
    f.arguments = (2 * zero.length).log2 ∧ ∃ zs os : List Bool,
      zero = zs.map symbol ∧ one = os.map symbol ∧
      f.rows = weave argument (List.range (2 * zero.length)) zs os := by
  obtain ⟨zs, os, n, g, rfl, rfl, hz, -, -, hg, hargs, hrows⟩ :=
    (residuals_of_ofResiduals h).exists_weave
  obtain rfl : g = f := Except.ok.inj (hg.symm.trans h)
  have hdouble : 2 * (zs.map symbol).length = 2 ^ (n + 1) := by
    rw [List.length_map, hz, Nat.pow_succ, Nat.mul_comm]
  rw [hdouble, Nat.log2_two_pow]
  exact ⟨hargs, zs, os, rfl, rfl, hrows⟩

/-- The loop gets through any number of the rows, and has put down so much of the function. -/
theorem deal?_of_ofResiduals {zero one : List Char} {argument : Nat} {f : TruthVector}
    (h : ofResiduals zero one argument = .ok f) {rows : Nat} (hrows : rows ≤ 2 * zero.length) :
    ∃ d, deal? zero one argument rows = some d ∧ d.UpTo zero one argument rows ∧
      d.text = f.digits.take rows := by
  obtain ⟨d, hd, hup⟩ := upTo_deal? (residuals_of_ofResiduals h) hrows
  obtain ⟨-, zs, os, hz, ho, hf⟩ := weave_of_ofResiduals h
  refine ⟨d, hd, hup, ?_⟩
  calc d.text = (weave argument (List.range rows) zs os).map symbol := text_eq_weave hd hz ho
    _ = f.digits.take rows := by
        rw [digits, ← List.map_take, hf, take_weave, List.take_range, Nat.min_eq_left hrows]

/-- In words that hold the number of rows, no shift by the argument is as long as the word. -/
theorem Residuals.argument_lt_of_length_lt {zero one : List Char} {argument bits : Nat}
    (h : Residuals zero one argument) (hbits : 2 * zero.length < 2 ^ bits) : argument < bits := by
  obtain ⟨-, -, -, n, hn, ha⟩ := h
  have hlt : 2 ^ argument < 2 ^ bits :=
    calc 2 ^ argument ≤ zero.length := by rw [hn]; exact Nat.pow_le_pow_right (by decide) ha
      _ ≤ 2 * zero.length := Nat.le_mul_of_pos_left _ (by decide)
      _ < 2 ^ bits := hbits
  exact (Nat.pow_lt_pow_iff_right (by decide)).1 hlt

/-- Two texts are put together if and only if they are of binary digits, equally many, a power of
two, and the argument is one of the function's; else the first fault is told. Every row of the
function is the symbol that stands, in the residual of the row's bit, at its index without that bit;
the loop finds it there with its cursor, and reads no residual past its end. -/
theorem ofResiduals_by_rows (zero one : List Char) (argument : Nat) :
    ((∃ f, ofResiduals zero one argument = .ok f) ↔
      Binary zero ∧ Binary one ∧ zero.length = one.length ∧ zero.length.isPowerOfTwo ∧
        argument ≤ zero.length.log2) ∧
    (∀ e, ofResiduals zero one argument = .error e ↔ fault? zero one argument = some e) ∧
    ∀ f, ofResiduals zero one argument = .ok f →
      f.digits.length = 2 * zero.length ∧ f.arguments = (2 * zero.length).log2 ∧
      (∀ row < 2 * zero.length, deleteBit argument row < zero.length ∧
        f.digits[row]? =
          (if row.testBit argument then one else zero)[deleteBit argument row]?) ∧
      (∀ rows ≤ 2 * zero.length, ∃ d, deal? zero one argument rows = some d ∧
        d.text = f.digits.take rows ∧
        d.cursor (rows.testBit argument) = deleteBit argument rows) ∧
      ∀ bits, 2 * zero.length < 2 ^ bits → argument < bits := by
  refine ⟨?_, fun e => ofResiduals_eq_error_iff, ?_⟩
  · rw [← residuals_iff]
    constructor
    · rintro ⟨f, h⟩
      exact residuals_of_ofResiduals h
    · intro h
      obtain ⟨f, hf, -⟩ := h.ofResiduals
      exact ⟨f, hf⟩
  · intro f h
    have hr := residuals_of_ofResiduals h
    obtain ⟨harguments, zs, os, -, -, hf⟩ := weave_of_ofResiduals h
    have hlength : f.digits.length = 2 * zero.length := by
      rw [digits, List.length_map, hf, length_weave, List.length_range]
    obtain ⟨d, -, hup, htext⟩ := deal?_of_ofResiduals h (Nat.le_refl _)
    rw [← hlength, List.take_length] at htext
    refine ⟨hlength, harguments, fun row hrow => ⟨hr.deleteBit_lt hrow, ?_⟩, fun rows hrows => ?_,
      fun bits => hr.argument_lt_of_length_lt⟩
    · rw [← htext]
      exact hup.text_getElem? row hrow
    · obtain ⟨d, hd, hup, htext⟩ := deal?_of_ofResiduals h hrows
      exact ⟨d, hd, htext, by rw [hup.cursor_eq, rank_testBit]⟩

/-- Eight rows of the middle argument: row 5 is the last symbol of the zero residual. Three symbols
each are no residuals. -/
theorem ofResiduals_by_rows_middle :
    ofResiduals "011".toList "101".toList 7 = .error (.badLength 6) ∧
      ∃ f, ofResiduals "0110".toList "1011".toList 1 = .ok f ∧ f.digits.length = 8 ∧
        deleteBit 1 5 = 3 ∧ f.digits[5]? = some '0' ∧ 2 * 4 < 2 ^ 64 ∧ 1 < 64 ∧
        ∃ d, deal? "0110".toList "1011".toList 1 5 = some d ∧ d.cursor (Nat.testBit 5 1) = 3 := by
  have hresiduals : Binary "0110".toList ∧ Binary "1011".toList ∧
      "0110".toList.length = "1011".toList.length ∧ "0110".toList.length.isPowerOfTwo ∧
      1 ≤ "0110".toList.length.log2 := by
    decide
  obtain ⟨f, hf⟩ := (ofResiduals_by_rows _ _ _).1.2 hresiduals
  obtain ⟨hlength, -, hrow, hdeal, hshift⟩ := (ofResiduals_by_rows _ _ _).2.2 f hf
  obtain ⟨d, hd, -, hcursor⟩ := hdeal 5 (by decide)
  exact ⟨((ofResiduals_by_rows _ _ _).2.1 _).2 (by decide), f, hf, hlength, by decide,
    (hrow 5 (by decide)).2, by decide, hshift 64 (by decide), d, hd, hcursor⟩

end TruthVector
end ResidualForm
