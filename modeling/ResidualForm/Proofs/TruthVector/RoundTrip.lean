import ResidualForm.Proofs.TruthVector

/-!
# ResidualForm.Proofs.TruthVector.RoundTrip

Splitting a function into the residuals of an argument and putting it together again undo each
other.

* `weave_rowsWhere` — rows taken apart by a bit of their index and dealt out by it again stand where
  they stood.
* `split_rebuild`   — both ways round, for every function, argument and pair of texts.
-/

namespace ResidualForm
namespace TruthVector

/-- What has been taken out of the rows by a bit is dealt out to them in the same order. -/
theorem weave_filter (argument : Nat) (entries : List (Bool × Nat)) :
    weave argument (entries.map Prod.snd)
        ((entries.filter fun row => row.2.testBit argument == false).map Prod.fst)
        ((entries.filter fun row => row.2.testBit argument == true).map Prod.fst) =
      entries.map Prod.fst := by
  induction entries with
  | nil => rfl
  | cons entry entries ih =>
    cases hb : entry.2.testBit argument with
    | false => simp [weave, hb, ← ih]
    | true => simp [weave, hb, ← ih]

theorem weave_rowsWhere (argument : Nat) (rows : List Bool) :
    weave argument (List.range rows.length) (rowsWhere argument false rows)
        (rowsWhere argument true rows) = rows := by
  have h := weave_filter argument rows.zipIdx
  rwa [List.zipIdx_map_snd, ← List.range_eq_range', List.zipIdx_map_fst] at h

theorem length_rowsWhere {argument n : Nat} (ha : argument ≤ n) {rows : List Bool}
    (hl : rows.length = 2 ^ (n + 1)) (value : Bool) :
    (rowsWhere argument value rows).length = 2 ^ n := by
  have hindices : rows.zipIdx.map Prod.snd = List.range (2 ^ (n + 1)) := by
    rw [List.zipIdx_map_snd, ← List.range_eq_range', hl]
  rw [← countP_testBit ha value, ← hindices, List.countP_map, rowsWhere, List.length_map,
    List.countP_eq_length_filter]
  rfl

theorem ext_rows {f g : TruthVector} (hr : f.rows = g.rows) (ha : f.arguments = g.arguments) :
    f = g := by
  cases f
  cases g
  cases hr
  cases ha
  rfl

theorem residual_of_lt {f : TruthVector} {argument : Nat} (h : argument < f.arguments)
    (value : Bool) : f.residual argument value = .ok (rowsWhere argument value f.rows) :=
  if_pos h

theorem ofResiduals_rowsWhere {f : TruthVector} {argument : Nat} (h : argument < f.arguments) :
    ofResiduals ((rowsWhere argument false f.rows).map symbol)
        ((rowsWhere argument true f.rows).map symbol) argument = .ok f := by
  obtain ⟨n, hn⟩ : ∃ n, f.arguments = n + 1 := ⟨f.arguments - 1, by omega⟩
  have hlen : f.rows.length = 2 ^ (n + 1) := by rw [f.length_rows, rowCount_eq, hn]
  have ha : argument ≤ n := by omega
  obtain ⟨g, hg, hargs, hrows⟩ := ofResidualValues_of_length
    (length_rowsWhere ha hlen false) (length_rowsWhere ha hlen true) ha
  have hfg : g = f := by
    apply ext_rows
    · rw [hrows, ← hlen, weave_rowsWhere]
    · rw [hargs, hn]
  rw [ofResiduals_map_symbol]
  exact hg.trans (congrArg Except.ok hfg)

/-- A function comes back from the residuals of any of its arguments; and one that has been put
together has these residuals, and is read back from its digits. -/
theorem split_rebuild :
    (∀ (f : TruthVector) (argument : Nat), argument < f.arguments →
      ∃ zero one, (f.residual argument false).map (List.map symbol) = .ok zero ∧
        (f.residual argument true).map (List.map symbol) = .ok one ∧
        ofResiduals zero one argument = .ok f) ∧
    ∀ (zero one : List Char) (argument : Nat) (f : TruthVector),
      ofResiduals zero one argument = .ok f →
        (f.residual argument false).map (List.map symbol) = .ok zero ∧
        (f.residual argument true).map (List.map symbol) = .ok one ∧
        parse f.digits = .ok f := by
  constructor
  · intro f argument h
    refine ⟨_, _, ?_, ?_, ofResiduals_rowsWhere h⟩
    · rw [residual_of_lt h]
      rfl
    · rw [residual_of_lt h]
      rfl
  · intro zero one argument f h
    obtain ⟨g, hg, hzero, hone⟩ := (residuals_of_ofResiduals h).ofResiduals
    obtain rfl : g = f := Except.ok.inj (hg.symm.trans h)
    exact ⟨hzero, hone, parse_digits g⟩

/-- Eight rows, put together by the middle one of three arguments and split by the highest. -/
theorem split_rebuild_eight_rows :
    ∃ f, ofResiduals "0110".toList "1011".toList 1 = .ok f ∧ 2 < f.arguments ∧
      f.digits = "01101011".toList ∧
      (f.residual 1 false).map (List.map symbol) = .ok "0110".toList ∧
      (f.residual 1 true).map (List.map symbol) = .ok "1011".toList ∧
      ∃ zero one, (f.residual 2 false).map (List.map symbol) = .ok zero ∧
        (f.residual 2 true).map (List.map symbol) = .ok one ∧
        ofResiduals zero one 2 = .ok f := by
  have h : ofResiduals "0110".toList "1011".toList 1 =
      .ok ⟨[false, true, true, false, true, false, true, true], 3, by decide, by decide⟩ := by
    rfl
  obtain ⟨hzero, hone, -⟩ := split_rebuild.2 _ _ _ _ h
  exact ⟨_, h, by decide, by decide, hzero, hone, split_rebuild.1 _ 2 (by decide)⟩

end TruthVector
end ResidualForm
