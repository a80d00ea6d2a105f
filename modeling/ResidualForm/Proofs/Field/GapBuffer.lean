import ResidualForm.Proofs.Draft.Insertion
import ResidualForm.Proofs.Field.Run

/-!
# ResidualForm.Proofs.Field.GapBuffer

On printable ASCII a residual field is a gap buffer: the characters before the cursor and those after
it, two lists that are changed at their ends. No two of these characters merge, so clusters are
characters, and the cursor is nowhere pushed about.

* `GapBuffer`                      — the buffer, its edits and its moves.
* `GapBuffer.field`                — the field that a buffer stands for.
* `GapBuffer.edit_field`, `GapBuffer.move_field` — the field is edited and moved as the buffer is, and
  refuses what the buffer refuses.
* `GapBuffer.run_field`            — so are whole runs.
* `ResidualField.run_as_gapBuffer` — all of it, in every state that a field can reach in this way.
-/

namespace ResidualForm

/-- The characters that an edit brings along. -/
def Edit.added : Edit → List Char
  | .insert c => [c]
  | .paste text => text
  | .replace text => text
  | _ => []

/-- The characters that an act brings along. -/
def LineAct.added : LineAct → List Char
  | .edit e => e.added
  | .move _ => []

/-- A text with a gap in it, where the cursor stands. -/
structure GapBuffer where
  before : List Char := []
  after : List Char := []
  deriving DecidableEq, Repr

namespace GapBuffer

def text (b : GapBuffer) : List Char :=
  b.before ++ b.after

def move (b : GapBuffer) : Motion → GapBuffer
  | .left => { before := b.before.dropLast, after := b.before.getLast?.toList ++ b.after }
  | .right => { before := b.before ++ b.after.head?.toList, after := b.after.tail }
  | .toStart => { after := b.text }
  | .toEnd => { before := b.text }

/-- An edit of a buffer for so many characters, or nothing where it is refused. -/
def edit (limit : Nat) (b : GapBuffer) : Edit → Option GapBuffer
  | .insert c => if b.text.length < limit then some { b with before := b.before ++ [c] } else none
  | .paste text =>
    let fitting := text.take (limit - b.text.length)
    if fitting = [] then none else some { b with before := b.before ++ fitting }
  | .backspace => if b.before = [] then none else some { b with before := b.before.dropLast }
  | .delete => if b.after = [] then none else some { b with after := b.after.tail }
  | .clear => if b.text = [] then none else some {}
  | .replace text =>
    let kept := text.take limit
    if kept = b.text then none else some { before := kept }

def run (limit : Nat) (b : GapBuffer) (acts : List LineAct) : GapBuffer :=
  acts.foldl (LineAct.apply (edit limit) move) b

def draft (b : GapBuffer) : Draft :=
  { text := b.before ++ b.after, cursor := b.before.length }

/-- The residual field with this content, its cursor in the gap. -/
def field (limit : Nat) (b : GapBuffer) : ResidualField :=
  { draft := b.draft, limit }

variable {b b' : GapBuffer} {limit : Nat}

open Text (PrintableAscii)

/-! ## The cursor in the gap -/

theorem size_draft (h : PrintableAscii b.text) : b.draft.size = b.text.length :=
  h.clusterCount_eq

theorem before_draft (h : PrintableAscii b.text) : b.draft.before = b.before := by
  show Text.takeClusters b.before.length b.text = b.before
  rw [h.takeClusters_eq, text, List.take_left]

theorem after_draft (h : PrintableAscii b.text) : b.draft.after = b.after := by
  show Text.dropClusters b.before.length b.text = b.after
  rw [h.dropClusters_eq, text, List.drop_left]

/-- What is left of a text whose characters do not merge has its characters left. -/
theorem without_draft (h : PrintableAscii b.text) (n : Nat) :
    b.draft.without n = b.text.take n ++ b.text.drop (n + 1) := by
  show Text.takeClusters n b.text ++ Text.dropClusters (n + 1) b.text = _
  rw [h.takeClusters_eq, h.dropClusters_eq]

/-! ## Edits and moves of a draft -/

theorem paste_draft (h : PrintableAscii b.text) {added : List Char} (ha : PrintableAscii added) :
    b.draft.paste added = draft { b with before := b.before ++ added } := by
  have htext : (b.draft.splice added).text = b.before ++ added ++ b.after := by
    rw [Draft.splice, before_draft h, after_draft h]
  have hsize : (b.draft.splice added).size = (b.before ++ added ++ b.after).length := by
    have hall : PrintableAscii (b.before ++ added ++ b.after) :=
      ((h.of_subset (List.subset_append_left _ _)).append ha).append
        (h.of_subset (List.subset_append_right _ _))
    rw [Draft.size, htext, hall.clusterCount_eq]
  have hcursor : min (b.before.length + Text.clusterCount added) (b.draft.splice added).size =
      (b.before ++ added).length := by
    simp only [hsize, ha.clusterCount_eq, List.length_append]
    omega
  show Draft.mk (b.draft.splice added).text _ = _
  rw [htext]
  exact congrArg (Draft.mk _) hcursor

theorem backspace_draft (h : PrintableAscii b.text) :
    b.draft.backspace =
      if b.before = [] then none else some (draft { b with before := b.before.dropLast }) := by
  rcases List.eq_nil_or_concat b.before with hnil | ⟨init, last, hinit⟩
  · rw [if_pos hnil, Draft.backspace, if_pos (by simp [draft, hnil])]
  · have htext : b.text = init ++ last :: b.after := by simp [text, hinit]
    have hne : b.before ≠ [] := by simp [hinit]
    rw [if_neg hne, Draft.backspace, if_neg (by simp [draft, hne]), without_draft h, htext]
    simp [draft, hinit]

theorem delete_draft (h : PrintableAscii b.text) :
    b.draft.delete = if b.after = [] then none else some (draft { b with after := b.after.tail }) := by
  rw [Draft.delete, size_draft h, without_draft h, text]
  cases hafter : b.after with
  | nil => simp [draft, hafter]
  | cons c rest => simp [draft, hafter]

theorem move_draft (h : PrintableAscii b.text) (m : Motion) : b.draft.move m = (b.move m).draft := by
  cases m with
  | left =>
    rcases List.eq_nil_or_concat b.before with hnil | ⟨init, last, hinit⟩
    · simp [Draft.move, move, draft, hnil]
    · simp [Draft.move, move, draft, hinit]
  | right =>
    rw [Draft.move, Draft.advance, size_draft h]
    cases hafter : b.after with
    | nil => simp [move, draft, text, hafter]
    | cons c rest => simp [move, draft, text, hafter]
  | toStart => rfl
  | toEnd =>
    rw [Draft.move, size_draft h]
    simp [move, draft, text]

/-! ## Edits and moves of a field -/

@[simp] theorem limit_field (limit : Nat) (b : GapBuffer) : (b.field limit).limit = limit := rfl

@[simp] theorem text_field (limit : Nat) (b : GapBuffer) : (b.field limit).text = b.text := rfl

@[simp] theorem draft_field (limit : Nat) (b : GapBuffer) : (b.field limit).draft = b.draft := rfl

theorem size_field (limit : Nat) (h : PrintableAscii b.text) :
    (b.field limit).size = b.text.length :=
  size_draft h

theorem move_field (limit : Nat) (h : PrintableAscii b.text) (m : Motion) :
    (b.field limit).move m = (b.move m).field limit := by
  rw [ResidualField.move, draft_field, move_draft h]
  rfl

theorem edit_field (limit : Nat) (h : PrintableAscii b.text) {e : Edit}
    (he : PrintableAscii e.added) :
    (b.field limit).edit e = (b.edit limit e).map (field limit) := by
  cases e with
  | insert c =>
    have hinsert : b.draft.insert c = draft { b with before := b.before ++ [c] } := paste_draft h he
    rw [ResidualField.edit, edit, limit_field, size_field limit h, draft_field, hinsert]
    by_cases hroom : b.text.length < limit
    · rw [if_neg (Nat.not_le_of_lt hroom), if_pos hroom]
      rfl
    · rw [if_pos (Nat.le_of_not_lt hroom), if_neg hroom]
      rfl
  | paste added =>
    have hpaste := paste_draft h (he.of_subset (List.take_subset (limit - b.text.length) added))
    simp only [ResidualField.edit, edit, limit_field, size_field limit h, draft_field, hpaste,
      List.isEmpty_iff]
    by_cases hnone : added.take (limit - b.text.length) = []
    · rw [if_pos hnone, if_pos hnone]
      rfl
    · rw [if_neg hnone, if_neg hnone]
      rfl
  | backspace =>
    rw [ResidualField.edit, edit, draft_field, backspace_draft h]
    split <;> rfl
  | delete =>
    rw [ResidualField.edit, edit, draft_field, delete_draft h]
    split <;> rfl
  | clear =>
    rw [ResidualField.edit, edit, text_field]
    by_cases hempty : b.text = []
    · rw [if_pos (List.isEmpty_iff.2 hempty), if_pos hempty]
      rfl
    · rw [if_neg (mt List.isEmpty_iff.1 hempty), if_neg hempty]
      rfl
  | replace added =>
    have hkept : PrintableAscii (added.take limit) := he.of_subset (List.take_subset _ _)
    have hofText : Draft.ofText (added.take limit) = draft { before := added.take limit } := by
      rw [Draft.ofText, hkept.clusterCount_eq, draft, List.append_nil]
    simp only [ResidualField.edit, edit, limit_field, text_field, hofText]
    by_cases hsame : added.take limit = b.text
    · rw [if_pos hsame, if_pos hsame]
      rfl
    · rw [if_neg hsame, if_neg hsame]
      rfl

theorem printableAscii_move (h : PrintableAscii b.text) (m : Motion) :
    PrintableAscii (b.move m).text := by
  apply h.of_subset
  cases m with
  | left =>
    rcases List.eq_nil_or_concat b.before with hnil | ⟨init, last, hinit⟩
    · simp [move, text, hnil]
    · simp [move, text, hinit]
  | right => cases hafter : b.after <;> simp [move, text, hafter]
  | toStart => simp [move, text]
  | toEnd => simp [move, text]

/-- What is in a buffer after an edit was there before, or has been brought along. -/
theorem subset_of_edit {e : Edit} (hb : b.edit limit e = some b') :
    b'.text ⊆ b.text ++ e.added := by
  cases e with
  | insert c =>
    rw [edit] at hb
    split at hb
    · cases hb
      simp [text, Edit.added]
    · cases hb
  | paste added =>
    simp only [edit] at hb
    split at hb
    · cases hb
    · cases hb
      have hfitting := List.take_subset (limit - b.text.length) added
      grind [text, Edit.added]
  | backspace =>
    rw [edit] at hb
    split at hb
    · cases hb
    · cases hb
      have hinit := List.dropLast_subset b.before
      grind [text]
  | delete =>
    rw [edit] at hb
    split at hb
    · cases hb
    · cases hb
      have hrest := (List.tail_sublist b.after).subset
      grind [text]
  | clear =>
    rw [edit] at hb
    split at hb
    · cases hb
    · cases hb
      exact List.nil_subset _
  | replace added =>
    simp only [edit] at hb
    split at hb
    · cases hb
    · cases hb
      have hkept := List.take_subset limit added
      grind [text, Edit.added]

theorem printableAscii_edit (h : PrintableAscii b.text) {e : Edit} (he : PrintableAscii e.added)
    (hb : b.edit limit e = some b') : PrintableAscii b'.text :=
  (h.append he).of_subset (subset_of_edit hb)

/-! ## Runs -/

theorem apply_field (limit : Nat) (h : PrintableAscii b.text) {act : LineAct}
    (ha : PrintableAscii act.added) :
    LineAct.apply ResidualField.edit ResidualField.move (b.field limit) act =
        (LineAct.apply (edit limit) move b act).field limit ∧
      PrintableAscii (LineAct.apply (edit limit) move b act).text := by
  cases act with
  | edit e =>
    rw [LineAct.apply, LineAct.apply, edit_field limit h ha]
    cases hb : b.edit limit e with
    | none => exact ⟨rfl, h⟩
    | some b' => exact ⟨rfl, printableAscii_edit h ha hb⟩
  | move m => exact ⟨move_field limit h m, printableAscii_move h m⟩

theorem run_field (limit : Nat) (h : PrintableAscii b.text) {acts : List LineAct}
    (ha : ∀ act ∈ acts, PrintableAscii act.added) :
    (b.field limit).run acts = (b.run limit acts).field limit ∧
      PrintableAscii (b.run limit acts).text := by
  induction acts generalizing b with
  | nil => exact ⟨rfl, h⟩
  | cons act acts ih =>
    obtain ⟨hact, hacts⟩ := List.forall_mem_cons.1 ha
    obtain ⟨hfield, htext⟩ := apply_field limit h hact
    rw [ResidualField.run, List.foldl_cons, hfield]
    exact ih htext hacts

end GapBuffer

namespace ResidualField

/-- A residual field into which nothing but printable ASCII is brought is a gap buffer, in every state
that it can reach: it holds the characters before and after the gap, and its cursor is the number of
those before. Each further edit of this kind does to the field what it does to the buffer, and is
refused by the one just if it is by the other; and so does each move. -/
theorem run_as_gapBuffer (limit : Nat) (acts : List LineAct)
    (ha : ∀ act ∈ acts, Text.PrintableAscii act.added) :
    let f := (ofLimit limit).run acts
    let b := GapBuffer.run (max limit 1) {} acts
    f.limit = max limit 1 ∧ f.text = b.before ++ b.after ∧ f.cursor = b.before.length ∧
      (∀ e, Text.PrintableAscii e.added →
        (f.edit e).isSome = (b.edit (max limit 1) e).isSome ∧
          f.edit e = (b.edit (max limit 1) e).map (GapBuffer.field (max limit 1))) ∧
      ∀ m, f.move m = (b.move m).field (max limit 1) := by
  intro f b
  obtain ⟨hfield, hascii⟩ : f = b.field (max limit 1) ∧ Text.PrintableAscii b.text :=
    GapBuffer.run_field (b := {}) _ .nil ha
  rw [hfield]
  refine ⟨rfl, rfl, rfl, fun e he => ?_, GapBuffer.move_field _ hascii⟩
  have hedit := GapBuffer.edit_field (max limit 1) hascii he
  exact ⟨by rw [hedit, Option.isSome_map], hedit⟩

/-- A tilde is refused by the full field. When the digit after the gap is deleted, one of four more
characters goes in, and the next one is refused. -/
theorem run_as_gapBuffer_full :
    let acts : List LineAct := [.edit (.insert '1'), .edit (.paste "x 2".toList), .move .left,
      .edit (.insert '~'), .edit .delete, .edit (.paste "3456".toList)]
    let f := (ofLimit 4).run acts
    (∀ act ∈ acts, Text.PrintableAscii act.added) ∧
      GapBuffer.run (max 4 1) {} acts = { before := "1x 3".toList } ∧
      f.text = "1x 3".toList ++ [] ∧ f.cursor = 4 ∧
      Text.PrintableAscii (Edit.added (.insert '7')) ∧ (f.edit (.insert '7')).isSome = false ∧
      f.edit .backspace = some (GapBuffer.field 4 { before := "1x ".toList }) := by
  intro acts f
  have ha : ∀ act ∈ acts, Text.PrintableAscii act.added := by decide
  have hb : GapBuffer.run (max 4 1) {} acts = { before := "1x 3".toList } := by decide
  have hc : Text.PrintableAscii (Edit.added (.insert '7')) := by decide
  obtain ⟨-, htext, hcursor, hedit, -⟩ := run_as_gapBuffer 4 acts ha
  rw [hb] at htext hcursor hedit
  exact ⟨ha, hb, htext, hcursor, hc, (hedit _ hc).1, (hedit .backspace .nil).2⟩

end ResidualField
end ResidualForm
