import ResidualForm.Draft
import ResidualForm.Proofs.Text.Cluster

/-!
# ResidualForm.Proofs.Draft

Where the cursor of a draft may stand, and what an edit does to the text.

* `Draft.Placed` — the cursor stands inside the text or at its end; moves and edits keep it there.
* `Draft.backspace_eq_some_iff`, `Draft.delete_eq_some_iff` — all that the two deletions do.
* `Draft.Edited` — what an edit that says it changed something has done: insertions have made the
  text longer, removals shorter.
-/

namespace ResidualForm
namespace Draft

/-- The cursor does not stand past the end. -/
def Placed (d : Draft) : Prop :=
  d.cursor ≤ d.size

instance (d : Draft) : Decidable d.Placed :=
  inferInstanceAs (Decidable (d.cursor ≤ d.size))

theorem length_splice (d : Draft) (added : List Char) :
    (d.splice added).text.length = d.text.length + added.length := by
  have := congrArg List.length d.before_append_after
  simp only [splice, List.length_append] at this ⊢
  omega

theorem length_insert (d : Draft) (c : Char) : (d.insert c).text.length = d.text.length + 1 :=
  d.length_splice [c]

theorem length_paste (d : Draft) (added : List Char) :
    (d.paste added).text.length = d.text.length + added.length :=
  d.length_splice added

theorem placed_empty : Placed {} :=
  Nat.le_refl 0

theorem placed_ofText (text : List Char) : (ofText text).Placed :=
  Nat.le_refl _

theorem placed_advance (d : Draft) (n : Nat) : (d.advance n).Placed :=
  Nat.min_le_right _ _

theorem Placed.move {d : Draft} (h : d.Placed) (m : Motion) : (d.move m).Placed := by
  cases m with
  | left => exact Nat.le_trans (Nat.sub_le _ _) h
  | right => exact placed_advance d 1
  | toStart => exact Nat.zero_le _
  | toEnd => exact Nat.le_refl _

/-- The clusters before a cluster taken out stay as they are, so the cursor may stand after them. -/
theorem placed_without (d : Draft) {n : Nat} (hn : n ≤ d.size) :
    Placed { text := d.without n, cursor := n } := by
  show n ≤ Text.clusterCount (Text.takeClusters n d.text ++ Text.dropClusters (n + 1) d.text)
  calc n = Text.clusterCount (Text.takeClusters n d.text) := by
        rw [Text.clusterCount_takeClusters]
        exact (Nat.min_eq_left hn).symm
    _ ≤ _ := Text.clusterCount_le_append _ _

/-- An edit that took place: the text is another one, and the cursor stands inside it. -/
structure Edited (d d' : Draft) : Prop where
  placed : d'.Placed
  text_ne : d'.text ≠ d.text

theorem Edited.of_length_ne {d d' : Draft} (hp : d'.Placed)
    (h : d'.text.length ≠ d.text.length) : d.Edited d' :=
  ⟨hp, fun heq => h (congrArg List.length heq)⟩

theorem edited_insert (d : Draft) (c : Char) : d.Edited (d.insert c) := by
  apply Edited.of_length_ne (placed_advance _ _)
  show (d.insert c).text.length ≠ d.text.length
  rw [length_insert]
  exact Nat.succ_ne_self _

theorem edited_paste (d : Draft) {added : List Char} (h : added ≠ []) :
    d.Edited (d.paste added) := by
  have hpos := List.length_pos_iff.2 h
  apply Edited.of_length_ne (placed_advance _ _)
  show (d.paste added).text.length ≠ d.text.length
  rw [length_paste]
  omega

/-- Both deletions take a cluster out, and leave the cursor where it began. -/
theorem backspace_eq_some_iff {d d' : Draft} :
    d.backspace = some d' ↔
      0 < d.cursor ∧ d' = { text := d.without (d.cursor - 1), cursor := d.cursor - 1 } := by
  rw [Nat.pos_iff_ne_zero]
  by_cases hc : d.cursor = 0
  · simp [backspace, hc]
  · simp [backspace, hc, eq_comm]

theorem delete_eq_some_iff {d d' : Draft} :
    d.delete = some d' ↔
      d.cursor < d.size ∧ d' = { text := d.without d.cursor, cursor := d.cursor } := by
  by_cases hlt : d.cursor < d.size
  · simp [delete, hlt, eq_comm]
  · simp [delete, hlt]

theorem Placed.pred_lt {d : Draft} (h : d.Placed) (hc : 0 < d.cursor) : d.cursor - 1 < d.size :=
  Nat.lt_of_lt_of_le (Nat.pred_lt_of_lt hc) h

theorem edited_of_backspace {d d' : Draft} (h : d.Placed) (hd : d.backspace = some d') :
    d.Edited d' := by
  obtain ⟨hc, rfl⟩ := backspace_eq_some_iff.1 hd
  have hlt := h.pred_lt hc
  exact .of_length_ne (d.placed_without (Nat.le_of_lt hlt)) (Nat.ne_of_lt (Text.length_without_lt hlt))

theorem edited_of_delete {d d' : Draft} (hd : d.delete = some d') : d.Edited d' := by
  obtain ⟨hlt, rfl⟩ := delete_eq_some_iff.1 hd
  exact .of_length_ne (d.placed_without (Nat.le_of_lt hlt)) (Nat.ne_of_lt (Text.length_without_lt hlt))

theorem edited_clear {d : Draft} (h : d.text ≠ []) : d.Edited {} :=
  ⟨placed_empty, h.symm⟩

theorem edited_ofText {d : Draft} {text : List Char} (h : text ≠ d.text) :
    d.Edited (ofText text) :=
  ⟨placed_ofText text, h⟩

end Draft
end ResidualForm
