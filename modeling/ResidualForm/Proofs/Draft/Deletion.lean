import ResidualForm.Proofs.Draft.Run

/-!
# ResidualForm.Proofs.Draft.Deletion

A text deleted cluster by cluster, from its end or from its start. What is left is cut anew each time;
its cuts are those of the whole text all the same.

* `Draft.backspace_ofText`, `Draft.delete_atStart` — one deletion at either end of a text.
* `Draft.run_backspace`, `Draft.run_delete`        — so many in a row. Where nothing is left, more of
  them are refused, and nothing happens.
* `Draft.deletions_peel_clusters`                  — both, for every text.
-/

namespace ResidualForm

namespace Draft

/-- A text with the cursor in front of it. -/
def atStart (text : List Char) : Draft :=
  { text, cursor := 0 }

/-- The last cluster goes, and the cursor stands at the end of the rest. -/
theorem backspace_ofText {text : List Char} (h : 0 < Text.clusterCount text) :
    (ofText text).backspace = some (ofText (Text.takeClusters (Text.clusterCount text - 1) text)) := by
  rw [backspace_eq_some_iff]
  refine ⟨h, ?_⟩
  rw [ofText, ofText, mk.injEq, Text.clusterCount_takeClusters]
  constructor
  · show _ = Text.takeClusters (Text.clusterCount text - 1) text ++
      Text.dropClusters (Text.clusterCount text - 1 + 1) text
    rw [Nat.sub_add_cancel h, Text.dropClusters_of_le (Nat.le_refl _), List.append_nil]
  · exact Nat.min_eq_left (Nat.sub_le _ 1)

/-- The first cluster goes. -/
theorem delete_atStart {text : List Char} (h : 0 < Text.clusterCount text) :
    (atStart text).delete = some (atStart (Text.dropClusters 1 text)) :=
  delete_eq_some_iff.2 ⟨h, rfl⟩

theorem run_replicate_succ (d : Draft) (act : LineAct) (k : Nat) :
    d.run (List.replicate (k + 1) act) =
      LineAct.apply edit move (d.run (List.replicate k act)) act := by
  rw [run, List.replicate_succ', List.foldl_append]
  rfl

theorem run_backspace (text : List Char) (k : Nat) :
    (ofText text).run (List.replicate k (.edit .backspace)) =
      ofText (Text.takeClusters (Text.clusterCount text - k) text) := by
  induction k with
  | zero =>
    rw [Nat.sub_zero, Text.takeClusters_of_le (Nat.le_refl _)]
    rfl
  | succ k ih =>
    have hcount := Text.clusterCount_takeClusters (Text.clusterCount text - k) text
    rw [run_replicate_succ, ih, LineAct.apply, edit]
    rcases Nat.lt_or_ge k (Text.clusterCount text) with hlt | hge
    · rw [backspace_ofText (by omega), Option.getD_some, Text.takeClusters_takeClusters, hcount]
      congr 2
      omega
    · -- nothing is left to delete
      rw [Nat.sub_eq_zero_of_le hge, Nat.sub_eq_zero_of_le (Nat.le_succ_of_le hge)]
      rfl

theorem run_delete (text : List Char) (k : Nat) :
    (atStart text).run (List.replicate k (.edit .delete)) = atStart (Text.dropClusters k text) := by
  induction k with
  | zero =>
    rw [Text.dropClusters, List.drop_zero, Text.clusters_flatten]
    rfl
  | succ k ih =>
    have hcount := Text.clusterCount_dropClusters k text
    rw [run_replicate_succ, ih, LineAct.apply, edit]
    rcases Nat.lt_or_ge k (Text.clusterCount text) with hlt | hge
    · rw [delete_atStart (by omega), Option.getD_some, Text.dropClusters_dropClusters]
    · -- nothing is left to delete
      rw [Text.dropClusters_of_le hge, Text.dropClusters_of_le (Nat.le_succ_of_le hge)]
      rfl

/-- From the end of any text, and likewise from its start, as many deletions in a row take place as it
has clusters, and no more. Each leaves just the clusters that it should, and leaves them as they were
cut in the whole text. -/
theorem deletions_peel_clusters (d : Draft) (k : Nat) :
    let backwards := (d.move .toEnd).run (List.replicate k (.edit .backspace))
    let forwards := (d.move .toStart).run (List.replicate k (.edit .delete))
    (backwards.text = ((Text.clusters d.text).take (d.size - k)).flatten ∧
        Text.clusters backwards.text = (Text.clusters d.text).take (d.size - k) ∧
        backwards.cursor = d.size - k ∧ (backwards.backspace.isSome = true ↔ k < d.size)) ∧
      forwards.text = ((Text.clusters d.text).drop k).flatten ∧
        Text.clusters forwards.text = (Text.clusters d.text).drop k ∧
        forwards.cursor = 0 ∧ (forwards.delete.isSome = true ↔ k < d.size) := by
  intro backwards forwards
  have hback : backwards = ofText (Text.takeClusters (d.size - k) d.text) := run_backspace d.text k
  have hforth : forwards = atStart (Text.dropClusters k d.text) := run_delete d.text k
  have hcursor : backwards.cursor = d.size - k := by
    rw [hback, ofText, Text.clusterCount_takeClusters]
    exact Nat.min_eq_left (Nat.sub_le _ _)
  have hsize : forwards.size = d.size - k := by
    rw [hforth]
    exact Text.clusterCount_dropClusters k d.text
  refine ⟨⟨by rw [hback]; rfl, ?_, hcursor, ?_⟩, by rw [hforth]; rfl, ?_, by rw [hforth]; rfl, ?_⟩
  · rw [hback]
    exact Text.clusters_takeClusters _ _
  · rw [backspace_isSome_iff, hcursor]
    omega
  · rw [hforth]
    exact Text.clusters_dropClusters k d.text
  · rw [delete_isSome_iff, hsize, hforth]
    exact Nat.sub_pos_iff_lt

/-- Where a flag goes, the letters behind it make the flags that they made before. -/
example : (atStart "🇩🇪🇫🇷".toList).run [.edit .delete] = atStart "🇫🇷".toList := by decide +kernel

end Draft
end ResidualForm
