import ResidualForm.Proofs.Text.Boundary

/-!
# ResidualForm.Proofs.Text.Count

How many clusters a text has that was put together from others, which may merge where they meet and
pair off anew behind that place.

* `Lag` — how two readings of one text stay together that begin with different tails. Each character
  may bring the first reading one cut behind or ahead, and never more.
* `clusterCount_append_le` — put together, two texts have no more clusters than on their own.
-/

namespace ResidualForm
namespace Text

/-- How many cuts the next character makes: one before it, or none. -/
def Tail.cut (t : Tail) (j : Joint) : Nat :=
  if t.joins j then 0 else 1

theorem Tail.cut_le_one (t : Tail) (j : Joint) : t.cut j ≤ 1 := by
  rw [cut]
  split <;> decide

theorem length_clustersAfter_cons (t : Tail) (c : Char) (rest : List Char) :
    (clustersAfter t (c :: rest)).2.length =
      t.cut (joint c) + (clustersAfter (t.next (joint c)) rest).2.length := by
  cases hj : t.joins (joint c) with
  | true => simp [clustersAfter, Tail.cut, Tail.next, hj]
  | false => simp [clustersAfter, Tail.cut, Tail.next, hj, Nat.add_comm]

theorem length_clustersAfter_append (t : Tail) (a b : List Char) :
    (clustersAfter t (a ++ b)).2.length =
      (clustersAfter t a).2.length +
        (clustersAfter ((a.map joint).foldl Tail.next t) b).2.length := by
  induction a generalizing t with
  | nil => simp [clustersAfter]
  | cons c rest ih =>
    rw [List.cons_append, length_clustersAfter_cons, length_clustersAfter_cons, ih, Nat.add_assoc]
    rfl

/-- Tails that more characters join than a plain one, and none fewer. -/
def Tail.looksBack : Tail → Bool
  | .flag => true
  | .pictograph => true
  | .joinedPictograph => true
  | .consonant => true
  | .linkedConsonant => true
  | _ => false

/-- Read on from the first tail, any text is cut at most so many times more often than from the
second. -/
inductive Lag : Nat → Tail → Tail → Prop where
  | same {t : Tail} : Lag 0 t t
  -- the second reading begins with a cut
  | fresh {t : Tail} : Lag 0 t .control
  | looksBack {t : Tail} : t.looksBack = true → Lag 0 t .plain
  -- at the next flag the first reading cuts, and the second closes a pair
  | unpaired : Lag 1 .plain .flag

/-- The tail of a character that joined, beside that of the character alone. -/
theorem push_cases (t : Tail) (j : Joint) :
    t.push j = j.tail ∨ (j.tail = .plain ∧ (t.push j).looksBack = true) ∨
      (j = .flag ∧ t.push j = .plain) := by
  cases t <;> cases j <;> decide

theorem plain_next (j : Joint) : Tail.plain.next j = j.tail := by
  cases j <;> rfl

theorem plain_joins {t : Tail} (ht : t.looksBack = true) {j : Joint}
    (hj : Tail.plain.joins j = true) : t.joins j = true ∧ j ≠ .flag := by
  revert ht hj
  cases t <;> cases j <;> decide

theorem flag_next {j : Joint} (hj : j ≠ .flag) : Tail.flag.next j = j.tail := by
  revert hj
  cases j <;> decide

/-- A character that the second reading cuts off, and the first perhaps does not. -/
theorem lag_of_cut (t : Tail) (j : Joint) :
    ∃ k, Lag k (t.next j) j.tail ∧ k + t.cut j ≤ 1 := by
  cases hj : t.joins j with
  | false =>
    rw [Tail.next, hj]
    exact ⟨0, .same, by simpa using t.cut_le_one j⟩
  | true =>
    rw [Tail.next, Tail.cut, hj]
    rcases push_cases t j with h | ⟨h, hb⟩ | ⟨rfl, h⟩
    · exact ⟨0, h ▸ .same, by decide⟩
    · exact ⟨0, h ▸ .looksBack hb, by decide⟩
    · exact ⟨1, h ▸ .unpaired, by decide⟩

theorem Lag.next {k : Nat} {t s : Tail} (h : Lag k t s) (j : Joint) :
    ∃ k', Lag k' (t.next j) (s.next j) ∧ k' + t.cut j ≤ k + s.cut j := by
  cases h with
  | same => exact ⟨0, .same, Nat.le_refl _⟩
  | fresh =>
    rw [Tail.next.eq_1 .control, Tail.cut.eq_1 .control, control_joins]
    exact lag_of_cut t j
  | looksBack hb =>
    rw [plain_next]
    cases hj : Tail.plain.joins j with
    | false =>
      rw [Tail.cut.eq_1 .plain, hj]
      exact lag_of_cut t j
    | true =>
      obtain ⟨htj, hflag⟩ := plain_joins hb hj
      refine ⟨0, ?_, by simp [Tail.cut, htj]⟩
      rw [Tail.next, htj, if_pos rfl]
      rcases push_cases t j with h | ⟨h, hb⟩ | ⟨h, -⟩
      · exact h ▸ .same
      · exact h ▸ .looksBack hb
      · exact absurd h hflag
  | unpaired =>
    by_cases hj : j = .flag
    · -- now the second reading has a pair behind it, and the first an open one
      subst hj
      exact ⟨0, .looksBack rfl, by decide⟩
    · rw [plain_next, flag_next hj]
      have := Tail.plain.cut_le_one j
      exact ⟨0, .same, by omega⟩

theorem Lag.length_le {k : Nat} {t s : Tail} (h : Lag k t s) (text : List Char) :
    (clustersAfter t text).2.length ≤ k + (clustersAfter s text).2.length := by
  induction text generalizing k t s with
  | nil => exact Nat.zero_le _
  | cons c rest ih =>
    obtain ⟨k', hnext, hcut⟩ := h.next (joint c)
    have hrest := ih hnext
    rw [length_clustersAfter_cons, length_clustersAfter_cons]
    omega

theorem clusterCount_append_le (a b : List Char) :
    clusterCount (a ++ b) ≤ clusterCount a + clusterCount b := by
  rw [clusterCount, clusterCount, clusterCount, clusters_eq_clustersAfter,
    clusters_eq_clustersAfter a, clusters_eq_clustersAfter b, length_clustersAfter_append]
  have hlag := (Lag.fresh (t := (a.map joint).foldl Tail.next .control)).length_le b
  omega

theorem clusterCount_le_length (text : List Char) : clusterCount text ≤ text.length := by
  induction text with
  | nil => exact Nat.le_refl 0
  | cons c rest ih =>
    have happend := clusterCount_append_le [c] rest
    have hone : clusterCount [c] = 1 := rfl
    rw [List.singleton_append] at happend
    rw [List.length_cons]
    omega

end Text
end ResidualForm
