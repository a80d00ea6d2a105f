import ResidualForm.Proofs.Exchange.Marks
import ResidualForm.Proofs.Field.Typing
import ResidualForm.Proofs.Form.Run

/-!
# ResidualForm.Proofs.Form.Typing

Characters put into one field of a form, at once or one by one.

* `Form.run_typed_eq_paste` — printable ASCII that is typed leaves the form that pasting it leaves.
* `Form.Grown`              — one text is longer than before, and the others are the same: what an
  insertion does that takes place, and what several of them do.
* `Form.Grown.incomplete`   — where something has been put in, only the other fields can be empty, and
  more of it does not fill them.
-/

namespace ResidualForm

namespace Form

variable {f f' f'' : Form} {slot : Slot}

theorem flatMap_on_edit (slot other : Slot) (edits : List Edit) :
    (edits.map (Act.edit slot)).flatMap (Act.on other) =
      if slot = other then edits.map LineAct.edit else [] := by
  by_cases h : slot = other
  · induction edits with
    | nil => simp
    | cons e rest ih =>
      rw [if_pos h] at ih ⊢
      rw [List.map_cons, List.flatMap_cons, ih, Act.on, if_pos h]
      rfl
  · rw [if_neg h, List.flatMap_eq_nil_iff]
    intro act hact
    obtain ⟨e, -, rfl⟩ := List.mem_map.1 hact
    exact if_neg h

/-- Typed or pasted, whichever the field, and however much of it goes in. -/
theorem run_typed_eq_paste (hp : f.Placed) {text : List Char}
    (h : Text.PrintableAscii (f.text slot)) (ht : Text.PrintableAscii text) :
    f.run ((text.map Edit.insert).map (Act.edit slot)) = f.run ([.paste text].map (Act.edit slot)) := by
  have htyped : (text.map Edit.insert).map LineAct.edit = LineAct.typed text := List.map_map
  rw [run_eq, run_eq]
  simp only [flatMap_on_edit, htyped]
  cases slot with
  | zero =>
    have hfield := ResidualField.run_typed_eq_paste hp.zero h ht
    exact congrArg (fun zero => { f with zero }) hfield
  | one =>
    have hfield := ResidualField.run_typed_eq_paste hp.one h ht
    exact congrArg (fun one => { f with one }) hfield
  | argument =>
    have hfield := f.argument.run_typed_eq_paste text
    exact congrArg (fun argument => { f with argument }) hfield

/-- Something has been put into one field; the others hold what they held. -/
structure Grown (f : Form) (slot : Slot) (f' : Form) : Prop where
  longer : (f.text slot).length < (f'.text slot).length
  others : ∀ other, other ≠ slot → f'.text other = f.text other

theorem Grown.trans (h : f.Grown slot f') (h' : f'.Grown slot f'') : f.Grown slot f'' :=
  ⟨Nat.lt_trans h.longer h'.longer, fun other ho => (h'.others other ho).trans (h.others other ho)⟩

theorem Grown.ne (h : f.Grown slot f') : f' ≠ f :=
  fun heq => Nat.lt_irrefl _ (heq ▸ h.longer)

theorem grown_of_edit {e : Edit} (hin : e.putsIn = true) (he : f.edit slot e = some f') :
    f.Grown slot f' := by
  refine ⟨?_, fun other ho => (edit_of_ne he ho).1⟩
  cases slot with
  | zero =>
    obtain ⟨zero, hz, rfl⟩ := Option.map_eq_some_iff.1 he
    exact ResidualField.length_lt_of_edit hin hz
  | one =>
    obtain ⟨one, ho, rfl⟩ := Option.map_eq_some_iff.1 he
    exact ResidualField.length_lt_of_edit hin ho
  | argument =>
    obtain ⟨argument, ha, rfl⟩ := Option.map_eq_some_iff.1 he
    exact ArgumentField.length_lt_of_edit hin ha

/-- The empty field is not the one that something has been put into. -/
theorem Grown.incomplete (h : f.Grown slot f') (h' : f'.Grown slot f'')
    (hi : f'.readiness = .incomplete) : f''.readiness = .incomplete := by
  rw [readiness_eq_incomplete_iff, someEmpty, List.any_eq_true] at hi ⊢
  obtain ⟨other, hmem, hempty⟩ := hi
  refine ⟨other, hmem, ?_⟩
  have hne : other ≠ slot := by
    rintro rfl
    rw [List.isEmpty_iff] at hempty
    have hlonger := h.longer
    rw [hempty] at hlonger
    exact Nat.not_lt_zero _ hlonger
  rw [h'.others other hne]
  exact hempty

end Form
end ResidualForm
