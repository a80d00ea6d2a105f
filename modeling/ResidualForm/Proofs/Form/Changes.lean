import ResidualForm.Proofs.Form.Run

/-!
# ResidualForm.Proofs.Form.Changes

What the form says of an act, and what the act has done. An edit is said to have changed the form
just if a text is another one; an edit that is refused leaves all as it was, the cursors too.

* `Placed.changes_iff` — what is said is told by the texts before and after.
* `Placed.cursor_step_of_text_eq` — a field whose text stays is left alone, even where others change.
* `not_changes_replaceAll_twice` — texts that have been put in are not put in again.
* `changes_iff_text_ne` — all of it, in every state that a form can reach.
-/

namespace ResidualForm

namespace LineAct

/-- One edit, or nothing at all. -/
def AtMostOneEdit (acts : List LineAct) : Prop :=
  acts = [] ∨ ∃ e, acts = [.edit e]

variable {α β : Type} {edit : α → Edit → Option α} {move : α → Motion → α} {text : α → β} {a : α}

/-- If every edit that takes place leaves another text, an edit that leaves the same text has not
taken place. -/
theorem AtMostOneEdit.foldl_apply_eq {acts : List LineAct} (hacts : AtMostOneEdit acts)
    (hedit : ∀ e a', edit a e = some a' → text a' ≠ text a)
    (ht : text (acts.foldl (apply edit move) a) = text a) : acts.foldl (apply edit move) a = a := by
  rcases hacts with rfl | ⟨e, rfl⟩
  · rfl
  · rw [List.foldl_cons, List.foldl_nil, apply] at ht ⊢
    cases he : edit a e with
    | none => rfl
    | some a' =>
      rw [he] at ht
      exact absurd ht (hedit e a' he)

end LineAct

namespace ResidualField

theorem run_of_text_eq {f : ResidualField} {acts : List LineAct} (h : f.draft.Placed)
    (hacts : LineAct.AtMostOneEdit acts) (ht : (f.run acts).text = f.text) : f.run acts = f :=
  hacts.foldl_apply_eq (fun _ _ he => (edited_of_edit h he).text_ne) ht

theorem edit_replace_twice (f : ResidualField) (text : List Char) :
    ((f.edit (.replace text)).getD f).edit (.replace text) = none := by
  rw [edit_replace_eq_none_iff, limit_replace, text_replace]

end ResidualField

namespace ArgumentField

theorem run_of_text_eq {f : ArgumentField} {acts : List LineAct} (h : f.draft.Placed)
    (hacts : LineAct.AtMostOneEdit acts) (ht : (f.run acts).text = f.text) : f.run acts = f :=
  hacts.foldl_apply_eq (fun _ _ he => (edited_of_edit h he).text_ne) ht

theorem edit_replace_twice (f : ArgumentField) (text : List Char) :
    ((f.edit (.replace text)).getD f).edit (.replace text) = none := by
  rw [edit_replace_eq_none_iff, text_replace]

end ArgumentField

namespace Form

def Act.isMove : Act → Bool
  | .move _ _ => true
  | _ => false

/-- Whether the form says that an act changes it. It never says so of a move. -/
def changes (f : Form) : Act → Bool
  | .edit slot e => (f.edit slot e).isSome
  | .move _ _ => false
  | .replaceAll texts => (f.replaceAll texts.zero texts.one texts.argument).isSome

variable {f : Form} {act : Act}

theorem step_of_not_changes (hm : act.isMove = false) (hc : f.changes act = false) :
    f.step act = f := by
  cases act with
  | edit slot e =>
    have hnone : f.edit slot e = none := by simpa [changes] using hc
    rw [step, hnone, Option.getD_none]
  | move slot m => cases hm
  | replaceAll texts =>
    have hnone : f.replaceAll texts.zero texts.one texts.argument = none := by
      simpa [changes] using hc
    rw [step, hnone, Option.getD_none]

theorem Placed.edited_of_changes (h : f.Placed) (hc : f.changes act = true) :
    f.Edited (f.step act) := by
  cases act with
  | edit slot e =>
    obtain ⟨f', he⟩ := Option.isSome_iff_exists.1 hc
    rw [Form.step, he]
    exact edited_of_edit h he
  | move slot m => cases hc
  | replaceAll texts =>
    obtain ⟨f', hr⟩ := Option.isSome_iff_exists.1 hc
    rw [Form.step, hr]
    exact edited_of_replaceAll h hr

theorem Placed.changes_iff (h : f.Placed) :
    f.changes act = true ↔ ∃ slot, (f.step act).text slot ≠ f.text slot := by
  rw [← not_forall, ← request_eq_iff]
  constructor
  · exact fun hc => (h.edited_of_changes hc).request_ne
  · intro hne
    by_contra hc
    apply hne
    cases hm : act.isMove with
    | false => rw [step_of_not_changes hm (Bool.eq_false_iff.2 hc)]
    | true =>
      cases act with
      | move slot m => exact request_move f slot m
      | _ => cases hm

/-- An edit of the form is an edit of some of its fields, and nothing to the others. -/
theorem Act.atMostOneEdit_on (hm : act.isMove = false) (slot : Slot) :
    LineAct.AtMostOneEdit (act.on slot) := by
  cases act with
  | edit s e =>
    by_cases hs : s = slot
    · exact .inr ⟨e, if_pos hs⟩
    · exact .inl (if_neg hs)
  | move s m => cases hm
  | replaceAll texts => exact .inr ⟨_, rfl⟩

theorem Placed.cursor_step_of_text_eq (h : f.Placed) (hm : act.isMove = false) {slot : Slot}
    (ht : (f.step act).text slot = f.text slot) : (f.step act).cursor slot = f.cursor slot := by
  have hone := act.atMostOneEdit_on hm slot
  rw [step_eq] at ht ⊢
  cases slot with
  | zero => exact congrArg ResidualField.cursor (ResidualField.run_of_text_eq h.zero hone ht)
  | one => exact congrArg ResidualField.cursor (ResidualField.run_of_text_eq h.one hone ht)
  | argument => exact congrArg ArgumentField.cursor (ArgumentField.run_of_text_eq h.argument hone ht)

theorem not_changes_replaceAll_twice (f : Form) (texts : Request) :
    (f.step (.replaceAll texts)).changes (.replaceAll texts) = false := by
  rw [step_eq, changes, replaceAll]
  simp [Act.on, Request.text, ResidualField.run, ArgumentField.run, LineAct.apply,
    ResidualField.edit_replace_twice, ArgumentField.edit_replace_twice]

/-- In every state that a form can reach, an act is said to change it just if a text is another one
after it, which is never the case with a move. An edit of which this is not said leaves the whole
form as it was, and a field whose text stays keeps its cursor in any case; what is done to one field
is nothing to the others; and the same three texts are not put in twice. -/
theorem changes_iff_text_ne (s : FormSettings) (acts : List Act) :
    let f := (ofSettings s).run acts
    (∀ act, f.changes act = true ↔ ∃ slot, (f.step act).text slot ≠ f.text slot) ∧
      (∀ act, act.isMove = false → f.changes act = false → f.step act = f) ∧
      (∀ act slot, act.isMove = false → (f.step act).text slot = f.text slot →
        (f.step act).cursor slot = f.cursor slot) ∧
      (∀ slot e other, other ≠ slot →
        (f.step (.edit slot e)).text other = f.text other ∧
          (f.step (.edit slot e)).cursor other = f.cursor other) ∧
      (∀ slot m, (∀ other, (f.step (.move slot m)).text other = f.text other) ∧
        ∀ other, other ≠ slot → (f.step (.move slot m)).cursor other = f.cursor other) ∧
      ∀ texts, (f.step (.replaceAll texts)).changes (.replaceAll texts) = false := by
  intro f
  have h : f.Placed := (placed_ofSettings s).run acts
  refine ⟨fun act => h.changes_iff, fun act hm hc => step_of_not_changes hm hc,
    fun act slot hm ht => h.cursor_step_of_text_eq hm ht, ?_, ?_, f.not_changes_replaceAll_twice⟩
  · intro slot e other hne
    rw [step]
    cases he : f.edit slot e with
    | none => exact ⟨rfl, rfl⟩
    | some f' => exact edit_of_ne he hne
  · intro slot m
    exact ⟨request_eq_iff.1 (request_move f slot m), fun other hne => (f.move_of_ne m hne).2⟩

/-- Two full residual fields and a digit, with the first cursor at the start. -/
def filled : List Act :=
  [.replaceAll ⟨"12".toList, "34".toList, "5".toList⟩, .move .zero .toStart]

/-- A digit finds no room and leaves all as it is. Of three texts that are put in, the first comes to
the same as before when it is cut off, and the cursor stays in front of it; the second does not. -/
theorem changes_iff_text_ne_filled :
    let f := (ofSettings { residualLimit := 2 }).run filled
    let typed : Act := .edit .zero (.insert '0')
    let texts : Request := ⟨"129".toList, "35".toList, "x5".toList⟩
    f.changes typed = false ∧ f.step typed = f ∧
      f.changes (.replaceAll texts) = true ∧
      (∃ slot, (f.step (.replaceAll texts)).text slot ≠ f.text slot) ∧
      (f.step (.replaceAll texts)).text .zero = f.text .zero ∧
      (f.step (.replaceAll texts)).cursor .zero = f.cursor .zero ∧ f.cursor .zero = 0 ∧
      (f.step (.replaceAll texts)).changes (.replaceAll texts) = false := by
  intro f typed texts
  obtain ⟨hiff, hsame, hcursor, -, -, htwice⟩ := changes_iff_text_ne { residualLimit := 2 } filled
  have htyped : f.changes typed = false := by decide +kernel
  have hchanges : f.changes (.replaceAll texts) = true := by decide +kernel
  have htext : (f.step (.replaceAll texts)).text .zero = f.text .zero := by decide +kernel
  exact ⟨htyped, hsame typed rfl htyped, hchanges, (hiff _).1 hchanges, htext,
    hcursor _ .zero rfl htext, by decide +kernel, htwice texts⟩

end Form
end ResidualForm
