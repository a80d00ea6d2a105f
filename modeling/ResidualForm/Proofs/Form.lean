import ResidualForm.Form
import ResidualForm.Proofs.Draft

/-!
# ResidualForm.Proofs.Form

What the edits and moves of the form do to its texts.

* `edited_of_edit`, `edited_of_replaceAll` — an edit that gives a form back has changed a text, in
  every field and by every kind of edit.
* `readiness_eq_ready` — what the texts of a request look like.
* `request_move`, `readiness_move` — a move leaves the texts and the verdict on them as they are.
* `edit_of_ne`, `move_of_ne` — what is done to one field leaves the others as they are.
* `Form.Placed` — the cursors of the form stand inside their texts, which all this keeps.
-/

namespace ResidualForm

theorem digitFault?_eq_none_iff {limit : Nat} {text : List Char} :
    digitFault? limit text = none ↔ text.length ≤ limit ∧ ∀ c ∈ text, c.isDigit = true := by
  have hentry := List.forall_mem_map (f := Prod.fst) (l := text.zipIdx)
    (P := fun c : Char => c.isDigit = true)
  rw [List.zipIdx_map_fst] at hentry
  have hfind : (text.zipIdx.find? fun entry => !entry.1.isDigit) = none ↔
      ∀ c ∈ text, c.isDigit = true := by
    rw [List.find?_eq_none, hentry]
    simp only [Bool.not_eq_true', Bool.not_eq_false]
  rw [digitFault?]
  split
  · simp
    omega
  · rw [← hfind]
    cases text.zipIdx.find? fun entry => !entry.1.isDigit <;> simp
    omega

namespace ResidualField

theorem valid_iff {f : ResidualField} :
    f.valid = true ↔ f.text.length ≤ f.limit ∧ ∀ c ∈ f.text, c.isDigit = true := by
  rw [valid, Option.isNone_iff_eq_none, fault?, digitFault?_eq_none_iff]

theorem edited_of_edit {f f' : ResidualField} {e : Edit} (h : f.draft.Placed) (he : f.edit e = some f') :
    f.draft.Edited f'.draft := by
  cases e with
  | insert c =>
    rw [edit] at he
    split at he
    · cases he
    · cases he
      exact Draft.edited_insert _ _
  | paste text =>
    simp only [edit] at he
    split at he
    · cases he
    · rename_i hne
      cases he
      exact Draft.edited_paste _ fun h => hne (List.isEmpty_iff.2 h)
  | backspace =>
    obtain ⟨d, hd, rfl⟩ := Option.map_eq_some_iff.1 he
    exact Draft.edited_of_backspace h hd
  | delete =>
    obtain ⟨d, hd, rfl⟩ := Option.map_eq_some_iff.1 he
    exact Draft.edited_of_delete hd
  | clear =>
    rw [edit] at he
    split at he
    · cases he
    · rename_i hne
      cases he
      exact Draft.edited_clear fun h => hne (List.isEmpty_iff.2 h)
  | replace text =>
    simp only [edit] at he
    split at he
    · cases he
    · rename_i hne
      cases he
      exact Draft.edited_ofText hne

end ResidualField

namespace ArgumentField

theorem value?_eq_some_iff {f : ArgumentField} {n : Nat} :
    f.value? = some n ↔ ∃ c, f.text = [c] ∧ c.isDigit = true ∧ c.toNat - '0'.toNat = n := by
  constructor
  · intro h
    rw [value?] at h
    split at h
    · rename_i c hc
      split at h
      · rename_i hd
        exact ⟨c, hc, hd, Option.some.inj h⟩
      · cases h
    · cases h
  · rintro ⟨c, hc, hd, rfl⟩
    rw [value?, hc]
    exact if_pos hd

theorem edited_of_enter {f f' : ArgumentField} {c : Char} (he : f.enter c = some f') :
    f.draft.Edited f'.draft := by
  rw [enter] at he
  split at he
  · cases he
    exact Draft.edited_insert _ _
  · cases he

theorem edited_of_edit {f f' : ArgumentField} {e : Edit} (h : f.draft.Placed) (he : f.edit e = some f') :
    f.draft.Edited f'.draft := by
  cases e with
  | insert c => exact edited_of_enter he
  | paste text =>
    obtain ⟨c, -, hc⟩ := Option.bind_eq_some_iff.1 he
    exact edited_of_enter hc
  | backspace =>
    obtain ⟨d, hd, rfl⟩ := Option.map_eq_some_iff.1 he
    exact Draft.edited_of_backspace h hd
  | delete =>
    obtain ⟨d, hd, rfl⟩ := Option.map_eq_some_iff.1 he
    exact Draft.edited_of_delete hd
  | clear =>
    rw [edit] at he
    split at he
    · cases he
    · rename_i hne
      cases he
      exact Draft.edited_clear fun h => hne (List.isEmpty_iff.2 h)
  | replace text =>
    simp only [edit] at he
    split at he
    · cases he
    · rename_i hne
      cases he
      exact Draft.edited_ofText hne

end ArgumentField

namespace Form

structure Placed (f : Form) : Prop where
  zero : f.zero.draft.Placed
  one : f.one.draft.Placed
  argument : f.argument.draft.Placed

theorem placed_ofSettings (s : FormSettings) : (ofSettings s).Placed :=
  ⟨Draft.placed_empty, Draft.placed_empty, Draft.placed_empty⟩

theorem Placed.move {f : Form} (h : f.Placed) (slot : Slot) (m : Motion) : (f.move slot m).Placed := by
  cases slot with
  | zero => exact ⟨h.zero.move m, h.one, h.argument⟩
  | one => exact ⟨h.zero, h.one.move m, h.argument⟩
  | argument => exact ⟨h.zero, h.one, h.argument.move m⟩

theorem request_eq_iff {f f' : Form} :
    f'.request = f.request ↔ ∀ slot, f'.text slot = f.text slot := by
  constructor
  · intro h slot
    cases slot with
    | zero => exact congrArg Request.zero h
    | one => exact congrArg Request.one h
    | argument => exact congrArg Request.argument h
  · intro h
    rw [request, request, Request.mk.injEq]
    exact ⟨h .zero, h .one, h .argument⟩

theorem request_move (f : Form) (slot : Slot) (m : Motion) :
    (f.move slot m).request = f.request := by
  cases slot <;> cases m <;> rfl

theorem text_move (f : Form) (slot other : Slot) (m : Motion) :
    (f.move slot m).text other = f.text other :=
  request_eq_iff.1 (f.request_move slot m) other

theorem cursor_move_left (f : Form) (slot : Slot) :
    (f.move slot .left).cursor slot = f.cursor slot - 1 := by
  cases slot <;> rfl

theorem cursor_move_right (f : Form) (slot : Slot) :
    (f.move slot .right).cursor slot = min (f.cursor slot + 1) (Text.clusterCount (f.text slot)) := by
  cases slot <;> rfl

/-- The verdict reads the texts alone. -/
theorem readiness_move (f : Form) (slot : Slot) (m : Motion) :
    (f.move slot m).readiness = f.readiness := by
  cases slot <;> cases m <;> rfl

theorem move_of_ne (f : Form) {slot other : Slot} (m : Motion) (hne : other ≠ slot) :
    (f.move slot m).text other = f.text other ∧ (f.move slot m).cursor other = f.cursor other := by
  cases slot <;> cases other <;> first | exact absurd rfl hne | exact ⟨rfl, rfl⟩

/-- An edit of one field leaves the texts and cursors of the others as they are. -/
theorem edit_of_ne {f f' : Form} {slot other : Slot} {e : Edit} (he : f.edit slot e = some f')
    (hne : other ≠ slot) : f'.text other = f.text other ∧ f'.cursor other = f.cursor other := by
  cases slot with
  | zero =>
    obtain ⟨zero, -, rfl⟩ := Option.map_eq_some_iff.1 he
    cases other <;> first | exact absurd rfl hne | exact ⟨rfl, rfl⟩
  | one =>
    obtain ⟨one, -, rfl⟩ := Option.map_eq_some_iff.1 he
    cases other <;> first | exact absurd rfl hne | exact ⟨rfl, rfl⟩
  | argument =>
    obtain ⟨argument, -, rfl⟩ := Option.map_eq_some_iff.1 he
    cases other <;> first | exact absurd rfl hne | exact ⟨rfl, rfl⟩

/-- A request consists of the texts of the form: digits, as many in one residual as in the other,
and one for the argument. -/
theorem readiness_eq_ready {f : Form} {request : Request} (h : f.readiness = .ready request) :
    request = f.request ∧ (∀ c ∈ request.zero, c.isDigit = true) ∧
      (∀ c ∈ request.one, c.isDigit = true) ∧ request.one.length = request.zero.length ∧
      ∃ c, request.argument = [c] ∧ c.isDigit = true := by
  rw [readiness] at h
  split at h
  · cases h
  split at h
  · cases h
  rename_i hzero
  split at h
  · cases h
  rename_i hone
  split at h
  · cases h
  rename_i argument hargument
  split at h
  · cases h
  rename_i hsize
  split at h
  · cases h
  cases h
  rw [Bool.not_eq_true', Bool.not_eq_false, ResidualField.valid_iff] at hzero hone
  obtain ⟨-, hz⟩ := hzero
  obtain ⟨-, ho⟩ := hone
  obtain ⟨c, hc, hd, -⟩ := ArgumentField.value?_eq_some_iff.1 hargument
  refine ⟨rfl, hz, ho, ?_, c, hc, hd⟩
  have hcount : Text.clusterCount f.zero.text = Text.clusterCount f.one.text :=
    Decidable.not_not.1 hsize
  rw [Text.clusterCount_of_forall_digit hz, Text.clusterCount_of_forall_digit ho] at hcount
  exact hcount.symm

/-- An edit that took place: some text is another one, and the cursors stand inside the texts. -/
structure Edited (f f' : Form) : Prop where
  placed : f'.Placed
  request_ne : f'.request ≠ f.request

theorem edited_of_edit {f f' : Form} {slot : Slot} {e : Edit} (h : f.Placed)
    (he : f.edit slot e = some f') : f.Edited f' := by
  cases slot with
  | zero =>
    obtain ⟨zero, hz, rfl⟩ := Option.map_eq_some_iff.1 he
    have hd := ResidualField.edited_of_edit h.zero hz
    exact ⟨⟨hd.placed, h.one, h.argument⟩, fun heq => hd.text_ne (congrArg Request.zero heq)⟩
  | one =>
    obtain ⟨one, ho, rfl⟩ := Option.map_eq_some_iff.1 he
    have hd := ResidualField.edited_of_edit h.one ho
    exact ⟨⟨h.zero, hd.placed, h.argument⟩, fun heq => hd.text_ne (congrArg Request.one heq)⟩
  | argument =>
    obtain ⟨argument, ha, rfl⟩ := Option.map_eq_some_iff.1 he
    have hd := ArgumentField.edited_of_edit h.argument ha
    exact ⟨⟨h.zero, h.one, hd.placed⟩, fun heq => hd.text_ne (congrArg Request.argument heq)⟩

/-- A replacement of all texts takes place where it replaces one of them at least. -/
theorem replaceAll_eq_some_iff {f f' : Form} {zero one argument : List Char} :
    f.replaceAll zero one argument = some f' ↔
      ((f.zero.edit (.replace zero)).isSome ∨ (f.one.edit (.replace one)).isSome ∨
        (f.argument.edit (.replace argument)).isSome) ∧
      f' =
        { f with
          zero := (f.zero.edit (.replace zero)).getD f.zero
          one := (f.one.edit (.replace one)).getD f.one
          argument := (f.argument.edit (.replace argument)).getD f.argument } := by
  rw [replaceAll]
  cases f.zero.edit (.replace zero) <;> cases f.one.edit (.replace one) <;>
    cases f.argument.edit (.replace argument) <;> simp [eq_comm]

theorem edited_of_replaceAll {f f' : Form} {zero one argument : List Char} (h : f.Placed)
    (hr : f.replaceAll zero one argument = some f') : f.Edited f' := by
  obtain ⟨hsome, rfl⟩ := replaceAll_eq_some_iff.1 hr
  refine ⟨⟨?_, ?_, ?_⟩, ?_⟩
  · cases hz : f.zero.edit (.replace zero) with
    | none => exact h.zero
    | some z => exact (ResidualField.edited_of_edit h.zero hz).placed
  · cases ho : f.one.edit (.replace one) with
    | none => exact h.one
    | some o => exact (ResidualField.edited_of_edit h.one ho).placed
  · cases ha : f.argument.edit (.replace argument) with
    | none => exact h.argument
    | some a => exact (ArgumentField.edited_of_edit h.argument ha).placed
  · intro heq
    rcases hsome with hz | ho | ha
    · obtain ⟨z, hz⟩ := Option.isSome_iff_exists.1 hz
      have ht := congrArg Request.zero heq
      simp only [request, hz, Option.getD_some] at ht
      exact (ResidualField.edited_of_edit h.zero hz).text_ne ht
    · obtain ⟨o, ho⟩ := Option.isSome_iff_exists.1 ho
      have ht := congrArg Request.one heq
      simp only [request, ho, Option.getD_some] at ht
      exact (ResidualField.edited_of_edit h.one ho).text_ne ht
    · obtain ⟨a, ha⟩ := Option.isSome_iff_exists.1 ha
      have ht := congrArg Request.argument heq
      simp only [request, ha, Option.getD_some] at ht
      exact (ArgumentField.edited_of_edit h.argument ha).text_ne ht

end Form
end ResidualForm
