import ResidualForm.Field
import ResidualForm.Proofs.Draft
import ResidualForm.Proofs.Text.Boundary

/-!
# ResidualForm.Proofs.Draft.Run

A line under any sequence of edits and moves.

* `foldl_apply`  — what every edit that takes place and every move keeps, a whole run keeps. Drafts
  and both kinds of field are run in this way.
* `Draft.Loses`  — what a deletion does: one cluster is gone, and the cursor stands where the text
  breaks next, if the neighbours of the gap have merged.
* `Draft.deletes_one_cluster` — both deletions, in every state that a line can reach.
-/

namespace ResidualForm

/-- What is done to a line: an edit of its text, or a move of its cursor. -/
inductive LineAct where
  | edit (e : Edit)
  | move (m : Motion)
  deriving DecidableEq, Repr

namespace LineAct

variable {α : Type} {edit : α → Edit → Option α} {move : α → Motion → α}

/-- One act on whatever can be edited and has a cursor. An edit that is refused changes nothing. -/
def apply (edit : α → Edit → Option α) (move : α → Motion → α) (a : α) : LineAct → α
  | .edit e => (edit a e).getD a
  | .move m => move a m

theorem foldl_apply {P : α → Prop} (hedit : ∀ a e a', P a → edit a e = some a' → P a')
    (hmove : ∀ a m, P a → P (move a m)) {a : α} (h : P a) (acts : List LineAct) :
    P (acts.foldl (apply edit move) a) := by
  induction acts generalizing a with
  | nil => exact h
  | cons act acts ih =>
    apply ih
    cases act with
    | move m => exact hmove a m h
    | edit e =>
      rw [apply]
      cases he : edit a e with
      | none => exact h
      | some a' => exact hedit a e a' h he

end LineAct

namespace Draft

/-- An edit of a line that takes any text. Only the deletions can be refused. -/
def edit (d : Draft) : Edit → Option Draft
  | .insert c => some (d.insert c)
  | .paste text => some (d.paste text)
  | .backspace => d.backspace
  | .delete => d.delete
  | .clear => some {}
  | .replace text => some (ofText text)

def run (d : Draft) (acts : List LineAct) : Draft :=
  acts.foldl (LineAct.apply edit move) d

theorem Placed.edit {d d' : Draft} {e : Edit} (h : d.Placed) (he : d.edit e = some d') :
    d'.Placed := by
  cases e with
  | insert c =>
    cases he
    exact placed_advance _ _
  | paste text =>
    cases he
    exact placed_advance _ _
  | backspace => exact (edited_of_backspace h he).placed
  | delete => exact (edited_of_delete he).placed
  | clear =>
    cases he
    exact placed_empty
  | replace text =>
    cases he
    exact placed_ofText text

theorem Placed.run {d : Draft} (h : d.Placed) (acts : List LineAct) : (d.run acts).Placed :=
  LineAct.foldl_apply (P := Placed) (fun _ _ _ h he => h.edit he) (fun _ m h => h.move m) h acts

theorem sublist_without (d : Draft) (n : Nat) : (d.without n).Sublist d.text := by
  obtain ⟨gap, hgap⟩ := List.drop_suffix_drop_left (Text.clusters d.text) (Nat.le_succ n)
  have hdrop : Text.dropClusters (n + 1) d.text <:+ Text.dropClusters n d.text :=
    ⟨gap.flatten, by rw [Text.dropClusters, ← List.flatten_append, hgap, Text.dropClusters]⟩
  have h := (List.Sublist.refl (Text.takeClusters n d.text)).append hdrop.sublist
  rwa [Text.takeClusters_append_dropClusters] at h

/-- The cursor never stands inside a character, let alone a cluster. -/
theorem boundary_byteOffset (d : Draft) : Text.Boundary d.text d.byteOffset :=
  Text.boundary_iff.2 ⟨d.cursor, rfl⟩

/-- A deletion has taken `cluster` out from between `before` and `after`, and has left the cursor at
the first break of the new text from there on. -/
structure Loses (d d' : Draft) (before cluster after : List Char) : Prop where
  text_old : d.text = before ++ cluster ++ after
  cluster : Text.ClusterBetween before cluster after
  text_new : d'.text = before ++ after
  offset : IsLeast { n | Text.Boundary d'.text n ∧ Text.byteLength before ≤ n } d'.byteOffset

/-- Taking out cluster number `n`, with the cursor left behind the clusters before it. -/
theorem loses_without (d : Draft) {n : Nat} (hn : n < d.size) :
    ∃ cluster, Text.takeClusters (n + 1) d.text = Text.takeClusters n d.text ++ cluster ∧
      d.Loses { text := d.without n, cursor := n } (Text.takeClusters n d.text) cluster
        (Text.dropClusters (n + 1) d.text) := by
  have hn' : n < (Text.clusters d.text).length := hn
  have hsplit : Text.clusters d.text = (Text.clusters d.text).take n ++
      (Text.clusters d.text)[n] :: (Text.clusters d.text).drop (n + 1) := by
    rw [← List.drop_eq_getElem_cons hn', List.take_append_drop]
  obtain ⟨htext, hcluster⟩ := Text.clusterBetween_of_clusters hsplit
  have hcount : Text.clusterCount (Text.takeClusters n d.text) = n := by
    rw [Text.clusterCount_takeClusters]
    exact Nat.min_eq_left (Nat.le_of_lt hn)
  refine ⟨(Text.clusters d.text)[n], ?_, htext.symm, hcluster, rfl, ?_⟩
  · rw [Text.takeClusters, List.take_succ_eq_append_getElem hn', List.flatten_append,
      List.flatten_singleton, Text.takeClusters]
  · have hleast := Text.isLeast_boundary (Text.takeClusters n d.text)
      (Text.dropClusters (n + 1) d.text)
    rwa [hcount] at hleast

theorem backspace_isSome_iff (d : Draft) : d.backspace.isSome = true ↔ 0 < d.cursor := by
  simp [Option.isSome_iff_exists, backspace_eq_some_iff]

theorem delete_isSome_iff (d : Draft) : d.delete.isSome = true ↔ d.cursor < d.size := by
  simp [Option.isSome_iff_exists, delete_eq_some_iff]

theorem loses_of_backspace {d d' : Draft} (h : d.Placed) (hd : d.backspace = some d') :
    ∃ before cluster after, d.Loses d' before cluster after ∧
      Text.byteLength (before ++ cluster) = d.byteOffset := by
  obtain ⟨hc, rfl⟩ := backspace_eq_some_iff.1 hd
  obtain ⟨cluster, hcluster, hloses⟩ := d.loses_without (h.pred_lt hc)
  refine ⟨_, cluster, _, hloses, ?_⟩
  rw [← hcluster, Nat.sub_add_cancel hc]
  rfl

theorem loses_of_delete {d d' : Draft} (hd : d.delete = some d') :
    ∃ before cluster after, d.Loses d' before cluster after ∧
      Text.byteLength before = d.byteOffset := by
  obtain ⟨hlt, rfl⟩ := delete_eq_some_iff.1 hd
  obtain ⟨cluster, -, hloses⟩ := d.loses_without hlt
  exact ⟨_, cluster, _, hloses, rfl⟩

/-- In every state that a line can reach, its cursor stands at a break of the text and not past the
end; and a deletion, which takes place wherever there is something to delete, takes out just the
cluster before the cursor, or the one under it. -/
theorem deletes_one_cluster (acts : List LineAct) :
    let d := ({} : Draft).run acts
    d.cursor ≤ d.size ∧ Text.Boundary d.text d.byteOffset ∧
      (d.backspace.isSome = true ↔ 0 < d.cursor) ∧
      (∀ d', d.backspace = some d' → ∃ before cluster after, d.Loses d' before cluster after ∧
        Text.byteLength (before ++ cluster) = d.byteOffset) ∧
      (d.delete.isSome = true ↔ d.cursor < d.size) ∧
      ∀ d', d.delete = some d' → ∃ before cluster after, d.Loses d' before cluster after ∧
        Text.byteLength before = d.byteOffset := by
  intro d
  have hplaced : d.Placed := placed_empty.run acts
  refine ⟨hplaced, d.boundary_byteOffset, d.backspace_isSome_iff, ?_, d.delete_isSome_iff, ?_⟩
  · exact fun d' hd => loses_of_backspace hplaced hd
  · exact fun d' hd => loses_of_delete hd

/-- Deleting the character between CR and LF makes one cluster of them, and the cursor goes past
both. -/
theorem deletes_one_cluster_line_end :
    let d := ({} : Draft).run [.edit (.paste "\r1\n".toList), .move .left]
    ∃ d', d.backspace = some d' ∧ d'.text = "\r\n".toList ∧ d'.byteOffset = 2 ∧
      ∃ before cluster after, d.Loses d' before cluster after ∧
        Text.byteLength (before ++ cluster) = d.byteOffset := by
  intro d
  have hd : d.backspace = some ⟨"\r\n".toList, 1⟩ := by decide +kernel
  exact ⟨_, hd, rfl, by decide +kernel, (deletes_one_cluster _).2.2.2.1 _ hd⟩

end Draft
end ResidualForm
