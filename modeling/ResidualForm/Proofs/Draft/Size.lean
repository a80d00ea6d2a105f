import ResidualForm.Proofs.Draft.Run
import ResidualForm.Proofs.Text.Count

/-!
# ResidualForm.Proofs.Draft.Size

How the size of a draft changes with its text, however the clusters on both sides of the change
merge or pair off anew: an insertion adds a cluster for each of its own at most (`size_splice_le`),
and a deletion takes one away at least (`clusterCount_without_lt`). So a draft stays within a limit
if no more characters are put in than there is room for clusters (`size_le_of_edit`).
-/

namespace ResidualForm

/-- An edit puts no more characters into a draft of this size than there is room for. -/
def Edit.Within (limit size : Nat) : Edit → Prop
  | .insert _ => size < limit
  | .paste text => text.length ≤ limit - size
  | .replace text => text.length ≤ limit
  | _ => True

namespace Draft

/-- The cursor stands at a break, so the clusters on its two sides are those of the text. -/
theorem clusterCount_before_add_after (d : Draft) :
    Text.clusterCount d.before + Text.clusterCount d.after = d.size := by
  rw [before, after, ← Text.clusterCount_append (Text.breaks_takeClusters d.cursor d.text),
    Text.takeClusters_append_dropClusters]
  rfl

theorem size_splice_le (d : Draft) (added : List Char) :
    (d.splice added).size ≤ d.size + Text.clusterCount added := by
  have houter := Text.clusterCount_append_le (d.before ++ added) d.after
  have hinner := Text.clusterCount_append_le d.before added
  rw [← d.clusterCount_before_add_after]
  show Text.clusterCount (d.before ++ added ++ d.after) ≤ _
  omega

theorem size_insert_le (d : Draft) (c : Char) : (d.insert c).size ≤ d.size + 1 :=
  d.size_splice_le [c]

theorem size_paste_le (d : Draft) (added : List Char) :
    (d.paste added).size ≤ d.size + added.length :=
  Nat.le_trans (d.size_splice_le added)
    (Nat.add_le_add_left (Text.clusterCount_le_length added) d.size)

theorem clusterCount_without_lt {d : Draft} {n : Nat} (hn : n < d.size) :
    Text.clusterCount (d.without n) < d.size := by
  have happend := Text.clusterCount_append_le (Text.takeClusters n d.text)
    (Text.dropClusters (n + 1) d.text)
  rw [Text.clusterCount_takeClusters, Text.clusterCount_dropClusters] at happend
  have hn' : n < Text.clusterCount d.text := hn
  show Text.clusterCount (Text.takeClusters n d.text ++ Text.dropClusters (n + 1) d.text) <
    Text.clusterCount d.text
  omega

theorem size_lt_of_backspace {d d' : Draft} (h : d.Placed) (hd : d.backspace = some d') :
    d'.size < d.size := by
  obtain ⟨hc, rfl⟩ := backspace_eq_some_iff.1 hd
  exact clusterCount_without_lt (h.pred_lt hc)

theorem size_lt_of_delete {d d' : Draft} (hd : d.delete = some d') : d'.size < d.size := by
  obtain ⟨hlt, rfl⟩ := delete_eq_some_iff.1 hd
  exact clusterCount_without_lt hlt

theorem size_le_of_edit {d d' : Draft} {limit : Nat} {e : Edit} (hp : d.Placed)
    (hs : d.size ≤ limit) (hw : e.Within limit d.size) (he : d.edit e = some d') :
    d'.size ≤ limit := by
  cases e with
  | insert c =>
    cases he
    exact Nat.le_trans (d.size_insert_le c) hw
  | paste text =>
    cases he
    have hroom : text.length ≤ limit - d.size := hw
    have hpaste := d.size_paste_le text
    omega
  | backspace => exact Nat.le_trans (Nat.le_of_lt (size_lt_of_backspace hp he)) hs
  | delete => exact Nat.le_trans (Nat.le_of_lt (size_lt_of_delete he)) hs
  | clear =>
    cases he
    exact Nat.zero_le _
  | replace text =>
    cases he
    exact Nat.le_trans (Text.clusterCount_le_length text) hw

theorem size_move (d : Draft) (m : Motion) : (d.move m).size = d.size := by
  cases m <;> rfl

end Draft
end ResidualForm
