import ResidualForm.Proofs.Draft.Run
import ResidualForm.Proofs.Draft.Size
import ResidualForm.Proofs.Form

/-!
# ResidualForm.Proofs.Field.Run

Both kinds of field under any sequence of edits and moves.

* `ResidualField.Fits`   — a residual field has no more clusters than its limit allows, and its
  cursor stands inside the text.
* `ArgumentField.Single` — the argument field is empty or holds a single digit.
* `text_replace`         — what either field holds after a replacement, whether it was one or not.
-/

namespace ResidualForm

namespace ResidualField

def run (f : ResidualField) (acts : List LineAct) : ResidualField :=
  acts.foldl (LineAct.apply edit move) f

variable {limit : Nat} {f f' : ResidualField} {e : Edit}

/-- An edit that a field lets through, perhaps shortened, is an edit of its draft. -/
theorem exists_edit_draft (he : f.edit e = some f') :
    ∃ e' d, e'.Within f.limit f.size ∧ f.draft.edit e' = some d ∧ f' = { f with draft := d } := by
  cases e with
  | insert c =>
    rw [edit] at he
    split at he
    · cases he
    · rename_i hroom
      cases he
      exact ⟨.insert c, _, Nat.lt_of_not_le hroom, rfl, rfl⟩
  | paste text =>
    simp only [edit] at he
    split at he
    · cases he
    · cases he
      exact ⟨.paste _, _, List.length_take_le _ _, rfl, rfl⟩
  | backspace =>
    obtain ⟨d, hd, rfl⟩ := Option.map_eq_some_iff.1 he
    exact ⟨.backspace, d, trivial, hd, rfl⟩
  | delete =>
    obtain ⟨d, hd, rfl⟩ := Option.map_eq_some_iff.1 he
    exact ⟨.delete, d, trivial, hd, rfl⟩
  | clear =>
    rw [edit] at he
    split at he
    · cases he
    · cases he
      exact ⟨.clear, _, trivial, rfl, rfl⟩
  | replace text =>
    simp only [edit] at he
    split at he
    · cases he
    · cases he
      exact ⟨.replace _, _, List.length_take_le _ _, rfl, rfl⟩

structure Fits (limit : Nat) (f : ResidualField) : Prop where
  limit_eq : f.limit = limit
  placed : f.draft.Placed
  size_le : f.size ≤ limit

theorem fits_ofLimit (limit : Nat) : (ofLimit limit).Fits (max limit 1) :=
  ⟨rfl, Draft.placed_empty, Nat.zero_le _⟩

theorem Fits.move (h : f.Fits limit) (m : Motion) : (f.move m).Fits limit :=
  ⟨h.limit_eq, h.placed.move m, (f.draft.size_move m).trans_le h.size_le⟩

theorem Fits.edit (h : f.Fits limit) (he : f.edit e = some f') : f'.Fits limit := by
  obtain ⟨hlimit, hplaced, hsize⟩ := h
  obtain ⟨e', d, hwithin, hd, rfl⟩ := exists_edit_draft he
  rw [hlimit] at hwithin
  exact ⟨hlimit, hplaced.edit hd, Draft.size_le_of_edit hplaced hsize hwithin hd⟩

theorem Fits.run (h : f.Fits limit) (acts : List LineAct) : (f.run acts).Fits limit :=
  LineAct.foldl_apply (P := Fits limit) (fun _ _ _ h he => h.edit he) (fun _ m h => h.move m) h acts

theorem edit_replace_eq_none_iff {text : List Char} :
    f.edit (.replace text) = none ↔ text.take f.limit = f.text := by
  simp [edit]

/-- Whether a replacement takes place or not, the text is then the one that was given, cut off at the
limit. -/
theorem text_replace (f : ResidualField) (text : List Char) :
    ((f.edit (.replace text)).getD f).text = text.take f.limit := by
  simp only [edit]
  split
  · rename_i hkept
    exact hkept.symm
  · rfl

theorem limit_replace (f : ResidualField) (text : List Char) :
    ((f.edit (.replace text)).getD f).limit = f.limit := by
  simp only [edit]
  split <;> rfl

end ResidualField

namespace ArgumentField

def run (f : ArgumentField) (acts : List LineAct) : ArgumentField :=
  acts.foldl (LineAct.apply edit move) f

/-- The field holds a digit, or nothing. -/
structure Single (f : ArgumentField) : Prop where
  length_le : f.text.length ≤ 1
  isDigit : ∀ c ∈ f.text, c.isDigit = true

variable {f f' : ArgumentField}

theorem single_empty : Single {} :=
  ⟨Nat.zero_le 1, fun _ hc => absurd hc List.not_mem_nil⟩

theorem Single.of_sublist (h : f.Single) (hs : f'.text.Sublist f.text) : f'.Single :=
  ⟨Nat.le_trans hs.length_le h.length_le, fun c hc => h.isDigit c (hs.subset hc)⟩

theorem Single.move (h : f.Single) (m : Motion) : (f.move m).Single := by
  apply h.of_sublist
  cases m <;> exact List.Sublist.refl _

theorem single_of_enter {c : Char} (he : f.enter c = some f') : f'.Single := by
  rw [enter] at he
  split at he
  · rename_i hc
    cases he
    rw [Bool.and_eq_true, List.isEmpty_iff] at hc
    obtain ⟨hdigit, hempty⟩ := hc
    have hsplit : f.draft.before ++ f.draft.after = [] := f.draft.before_append_after.trans hempty
    obtain ⟨hbefore, hafter⟩ := List.append_eq_nil_iff.1 hsplit
    have htext : (f.draft.insert c).text = [c] := by
      show f.draft.before ++ [c] ++ f.draft.after = [c]
      rw [hbefore, hafter]
      rfl
    constructor
    · show (f.draft.insert c).text.length ≤ 1
      rw [htext]
      exact Nat.le_refl 1
    · show ∀ x ∈ (f.draft.insert c).text, x.isDigit = true
      rw [htext]
      simpa using hdigit
  · cases he

theorem Single.edit {e : Edit} (h : f.Single) (he : f.edit e = some f') : f'.Single := by
  cases e with
  | insert c => exact single_of_enter he
  | paste text =>
    obtain ⟨c, -, hc⟩ := Option.bind_eq_some_iff.1 he
    exact single_of_enter hc
  | backspace =>
    obtain ⟨d, hd, rfl⟩ := Option.map_eq_some_iff.1 he
    obtain ⟨-, rfl⟩ := Draft.backspace_eq_some_iff.1 hd
    exact h.of_sublist (Draft.sublist_without _ _)
  | delete =>
    obtain ⟨d, hd, rfl⟩ := Option.map_eq_some_iff.1 he
    obtain ⟨-, rfl⟩ := Draft.delete_eq_some_iff.1 hd
    exact h.of_sublist (Draft.sublist_without _ _)
  | clear =>
    rw [ArgumentField.edit] at he
    split at he
    · cases he
    · cases he
      exact single_empty
  | replace text =>
    simp only [ArgumentField.edit] at he
    split at he
    · cases he
    · cases he
      refine ⟨List.length_take_le _ _, fun c hc => ?_⟩
      exact (List.mem_filter.1 (List.mem_of_mem_take hc)).2

theorem Single.run (h : f.Single) (acts : List LineAct) : (f.run acts).Single :=
  LineAct.foldl_apply (P := Single) (fun _ _ _ h he => h.edit he) (fun _ m h => h.move m) h acts

theorem edit_replace_eq_none_iff {text : List Char} :
    f.edit (.replace text) = none ↔ (text.filter Char.isDigit).take 1 = f.text := by
  simp [ArgumentField.edit]

/-- The text is then the first digit of the one that was given, if there is one. -/
theorem text_replace (f : ArgumentField) (text : List Char) :
    ((f.edit (.replace text)).getD f).text = (text.filter Char.isDigit).take 1 := by
  simp only [ArgumentField.edit]
  split
  · rename_i hkept
    exact hkept.symm
  · rfl

end ArgumentField
end ResidualForm
