import ResidualForm.Proofs.Field.GapBuffer

/-!
# ResidualForm.Proofs.Field.Typing

A text that is pasted into a field, and the same text typed into it character by character.

* `ResidualField.run_typed_eq_paste`, `ArgumentField.run_typed_eq_paste` — it comes to the same in a
  residual field on printable ASCII, and always in the argument field.
* `ResidualField.length_lt_of_edit`, `ArgumentField.length_lt_of_edit` — an insertion that takes place
  makes the text longer.
* `ResidualField.Fills`                — how much of a text goes in at the end of a residual field when
  it is typed: there is room for a cluster before each character.
* `ResidualField.paste_typed_at_end`   — what either way leaves there, and where they part: room is
  counted in clusters, but a paste takes up so many characters.
-/

namespace ResidualForm

/-- The edit puts characters in and takes none out. -/
def Edit.putsIn : Edit → Bool
  | .insert _ => true
  | .paste _ => true
  | _ => false

/-- The characters of a text, put in one by one. -/
def LineAct.typed (text : List Char) : List LineAct :=
  text.map fun c => .edit (.insert c)

namespace GapBuffer

variable {b : GapBuffer} {limit : Nat}

theorem run_typed (limit : Nat) (b : GapBuffer) (text : List Char) :
    b.run limit (LineAct.typed text) =
      { b with before := b.before ++ text.take (limit - b.text.length) } := by
  induction text generalizing b with
  | nil => rw [List.take_nil, List.append_nil]; rfl
  | cons c rest ih =>
    have hrun : b.run limit (LineAct.typed (c :: rest)) =
        ((b.edit limit (.insert c)).getD b).run limit (LineAct.typed rest) := rfl
    rw [hrun, edit]
    by_cases hroom : b.text.length < limit
    · have hlength : limit - b.text.length =
          limit - (text { b with before := b.before ++ [c] }).length + 1 := by
        simp only [text, List.length_append, List.length_singleton] at hroom ⊢
        omega
      rw [if_pos hroom, Option.getD_some, ih, hlength, List.take_succ_cons, List.append_assoc]
      rfl
    · have hfull : limit - b.text.length = 0 := by omega
      rw [if_neg hroom, Option.getD_none, ih, hfull, List.take_zero, List.take_zero]

theorem paste_getD (limit : Nat) (b : GapBuffer) (text : List Char) :
    (b.edit limit (.paste text)).getD b =
      { b with before := b.before ++ text.take (limit - b.text.length) } := by
  simp only [edit]
  split
  · rename_i hnone
    rw [hnone, List.append_nil, Option.getD_none]
  · rfl

end GapBuffer

namespace ResidualField

open Text (PrintableAscii clusterCount)

variable {limit : Nat} {f : ResidualField} {text : List Char}

/-- A field that holds printable ASCII, however it came by it. -/
theorem exists_gapBuffer (hp : f.draft.Placed) (h : PrintableAscii f.text) :
    ∃ b : GapBuffer, PrintableAscii b.text ∧ f = b.field f.limit := by
  have hcursor : f.draft.cursor ≤ f.draft.text.length := by
    have hsize : f.draft.size = f.draft.text.length := h.clusterCount_eq
    exact hsize ▸ hp
  refine ⟨⟨f.draft.text.take f.draft.cursor, f.draft.text.drop f.draft.cursor⟩, ?_, ?_⟩
  · rw [GapBuffer.text, List.take_append_drop]
    exact h
  · rw [GapBuffer.field, GapBuffer.draft, List.take_append_drop,
      List.length_take_of_le hcursor]

/-- A field takes in the same of printable ASCII, wherever its cursor stands. -/
theorem run_typed_eq_paste (hp : f.draft.Placed) (h : PrintableAscii f.text)
    (ht : PrintableAscii text) :
    f.run (LineAct.typed text) = (f.edit (.paste text)).getD f := by
  obtain ⟨b, hb, hf⟩ := exists_gapBuffer hp h
  have hacts : ∀ act ∈ LineAct.typed text, PrintableAscii act.added := by
    intro act hact
    obtain ⟨c, hc, rfl⟩ := List.mem_map.1 hact
    exact fun x hx => List.mem_singleton.1 hx ▸ ht c hc
  have hpaste : ((b.field f.limit).edit (.paste text)).getD (b.field f.limit) =
      ((b.edit f.limit (.paste text)).getD b).field f.limit := by
    rw [GapBuffer.edit_field (e := .paste text) _ hb ht]
    cases b.edit f.limit (.paste text) <;> rfl
  rw [hf, (GapBuffer.run_field _ hb hacts).1, hpaste, GapBuffer.run_typed, GapBuffer.paste_getD]

theorem length_lt_of_edit {f' : ResidualField} {e : Edit} (hin : e.putsIn = true)
    (he : f.edit e = some f') : f.text.length < f'.text.length := by
  cases e with
  | insert c =>
    rw [edit] at he
    split at he
    · cases he
    · cases he
      exact f.draft.length_insert c ▸ Nat.lt_succ_self _
  | paste text =>
    simp only [edit] at he
    split at he
    · cases he
    · rename_i hne
      cases he
      have hpos : 0 < (text.take (f.limit - f.size)).length :=
        List.length_pos_iff.2 fun h => hne (List.isEmpty_iff.2 h)
      exact f.draft.length_paste _ ▸ Nat.lt_add_of_pos_right hpos
  | _ => cases hin

/-! ## At the end of the text -/

/-- A field that holds a text, with the cursor at its end. -/
def holding (limit : Nat) (text : List Char) : ResidualField :=
  { draft := .ofText text, limit }

theorem eq_holding (h : f.cursor = f.size) : f = holding f.limit f.text := by
  obtain ⟨⟨text, cursor⟩, limit⟩ := f
  have hcursor : cursor = clusterCount text := h
  rw [hcursor]
  rfl

/-- The cursor stays at the end, also where the first characters merge with what was there. -/
theorem paste_ofText (text added : List Char) :
    (Draft.ofText text).paste added = .ofText (text ++ added) := by
  have hbefore : (Draft.ofText text).before = text := Text.takeClusters_of_le (Nat.le_refl _)
  have hafter : (Draft.ofText text).after = [] := by
    have hsplit := (Draft.ofText text).before_append_after
    rw [hbefore] at hsplit
    exact List.append_right_eq_self.1 hsplit
  have htext : ((Draft.ofText text).splice added).text = text ++ added := by
    rw [Draft.splice, hbefore, hafter, List.append_nil]
  have hcursor : min (clusterCount text + clusterCount added) (clusterCount (text ++ added)) =
      clusterCount (text ++ added) :=
    Nat.min_eq_right (Text.clusterCount_append_le text added)
  show Draft.mk ((Draft.ofText text).splice added).text
    (min (clusterCount text + clusterCount added)
      (clusterCount ((Draft.ofText text).splice added).text)) = _
  rw [htext, hcursor]
  rfl

theorem paste_holding (limit : Nat) (text added : List Char) :
    ((holding limit text).edit (.paste added)).getD (holding limit text) =
      holding limit (text ++ added.take (limit - clusterCount text)) := by
  have hroom : (holding limit text).limit - (holding limit text).size =
      limit - clusterCount text := rfl
  simp only [edit, hroom, List.isEmpty_iff]
  split
  · rename_i hnone
    rw [hnone, List.append_nil, Option.getD_none]
  · rw [Option.getD_some]
    exact congrArg (ResidualField.mk · limit) (paste_ofText text _)

theorem insert_holding (limit : Nat) (text : List Char) (c : Char) :
    ((holding limit text).edit (.insert c)).getD (holding limit text) =
      if clusterCount text < limit then holding limit (text ++ [c]) else holding limit text := by
  have hinsert : (Draft.ofText text).insert c = .ofText (text ++ [c]) := paste_ofText text [c]
  show (if limit ≤ clusterCount text then none
    else some ⟨(Draft.ofText text).insert c, limit⟩ : Option ResidualField).getD _ = _
  by_cases hroom : clusterCount text < limit
  · rw [if_neg (Nat.not_le_of_lt hroom), if_pos hroom, hinsert]
    rfl
  · rw [if_pos (Nat.le_of_not_lt hroom), if_neg hroom]
    rfl

/-- So many characters of a text go in behind another, with room for a cluster before each; and if
some are left out, there is no room for one any more. -/
structure Fills (limit : Nat) (text added : List Char) (count : Nat) : Prop where
  room : ∀ k < count, clusterCount (text ++ added.take k) < limit
  full : count < added.length → limit ≤ clusterCount (text ++ added.take count)

/-- Typing goes on until the field is full. -/
theorem exists_fills_run_typed (limit : Nat) (text added : List Char) :
    ∃ count, Fills limit text added count ∧
      (holding limit text).run (LineAct.typed added) =
        holding limit (text ++ added.take count) := by
  induction added generalizing text with
  | nil =>
    refine ⟨0, ⟨fun k hk => absurd hk (Nat.not_lt_zero k), fun h => absurd h (Nat.lt_irrefl 0)⟩, ?_⟩
    rw [List.take_nil, List.append_nil]
    rfl
  | cons c rest ih =>
    have hrun : (holding limit text).run (LineAct.typed (c :: rest)) =
        (((holding limit text).edit (.insert c)).getD (holding limit text)).run
          (LineAct.typed rest) := rfl
    rw [hrun, insert_holding]
    by_cases hroom : clusterCount text < limit
    · obtain ⟨count, hfills, hrest⟩ := ih (text ++ [c])
      refine ⟨count + 1, ⟨?_, ?_⟩, ?_⟩
      · rintro (_ | k) hk
        · rwa [List.take_zero, List.append_nil]
        · rw [List.take_succ_cons, List.append_cons]
          exact hfills.room k (Nat.lt_of_succ_lt_succ hk)
      · rw [List.length_cons, List.take_succ_cons, List.append_cons]
        exact fun hlt => hfills.full (Nat.lt_of_succ_lt_succ hlt)
      · rw [if_pos hroom, hrest, List.take_succ_cons, ← List.append_cons]
    · -- nothing goes in, so nothing of the rest does
      obtain ⟨count, hfills, hrest⟩ := ih text
      obtain rfl : count = 0 := by
        by_contra hne
        have hlt := hfills.room 0 (Nat.pos_of_ne_zero hne)
        rw [List.take_zero, List.append_nil] at hlt
        exact hroom hlt
      refine ⟨0, ⟨fun k hk => absurd hk (Nat.not_lt_zero k), fun _ => ?_⟩, ?_⟩
      · rw [List.take_zero, List.append_nil]
        exact Nat.le_of_not_lt hroom
      · rw [if_neg hroom, hrest, List.take_zero, List.take_zero]

/-- As many characters as there is room for clusters go in at least. -/
theorem Fills.min_le {added : List Char} {count : Nat} (h : Fills limit text added count) :
    min (limit - clusterCount text) added.length ≤ count := by
  by_contra hlt
  have hfull := h.full (by omega)
  have hcount := Text.clusterCount_append_le text (added.take count)
  have hlength := Text.clusterCount_le_length (added.take count)
  rw [List.length_take] at hlength
  omega

theorem Fills.take_prefix {added : List Char} {count : Nat} (h : Fills limit text added count) :
    added.take (limit - clusterCount text) <+: added.take count := by
  rw [List.take_eq_take_min]
  exact List.take_prefix_take_left h.min_le

theorem Fills.le_of_full {added : List Char} {count k : Nat} (h : Fills limit text added count)
    (hk : limit ≤ clusterCount (text ++ added.take k)) : count ≤ k := by
  by_contra hlt
  exact absurd (h.room k (Nat.lt_of_not_le hlt)) (Nat.not_lt_of_le hk)

theorem paste_eq_holding (h : f.cursor = f.size) (added : List Char) :
    (f.edit (.paste added)).getD f = holding f.limit (f.text ++ added.take (f.limit - f.size)) := by
  have hpaste := paste_holding f.limit f.text added
  rwa [← eq_holding h] at hpaste

theorem exists_run_typed_eq_holding (h : f.cursor = f.size) (added : List Char) :
    ∃ count, Fills f.limit f.text added count ∧
      f.run (LineAct.typed added) = holding f.limit (f.text ++ added.take count) := by
  have htyped := exists_fills_run_typed f.limit f.text added
  rwa [← eq_holding h] at htyped

/-- In every state in which the cursor of a residual field stands at the end of its text: a paste puts
so many characters in there as there is room for clusters. Typing the same text puts in these, and
goes on until all of it is in or the field is full. So the two agree just if the paste, too, has put in
all of the text or has left the field full. -/
theorem paste_typed_at_end (limit : Nat) (acts : List LineAct) (added : List Char) :
    let f := (ofLimit limit).run acts
    let pasted := (f.edit (.paste added)).getD f
    let typed := f.run (LineAct.typed added)
    f.cursor = f.size →
      pasted.text = f.text ++ added.take (f.limit - f.size) ∧
        pasted.text <+: typed.text ∧ typed.text <+: f.text ++ added ∧
        typed.size ≤ f.limit ∧ (typed.text = f.text ++ added ∨ typed.size = f.limit) ∧
        (pasted.text = typed.text ↔ pasted.text = f.text ++ added ∨ pasted.size = f.limit) := by
  intro f pasted typed hend
  have hfits : f.Fits (max limit 1) := (fits_ofLimit limit).run acts
  have hpasted : pasted = holding f.limit (f.text ++ added.take (f.limit - f.size)) :=
    paste_eq_holding hend added
  obtain ⟨count, hfills, htyped⟩ := exists_run_typed_eq_holding hend added
  change typed = _ at htyped
  have hpastedText : pasted.text = f.text ++ added.take (f.limit - f.size) := by rw [hpasted]; rfl
  have htypedText : typed.text = f.text ++ added.take count := by rw [htyped]; rfl
  have hprefix : pasted.text <+: typed.text := by
    rw [hpastedText, htypedText, List.prefix_append_right_inj]
    exact hfills.take_prefix
  have hall : typed.text <+: f.text ++ added := by
    rw [htypedText, List.prefix_append_right_inj]
    exact List.take_prefix _ _
  have hsize : typed.size ≤ f.limit := hfits.limit_eq ▸ (hfits.run (LineAct.typed added)).size_le
  have hdone : typed.text = f.text ++ added ∨ typed.size = f.limit := by
    rcases Nat.lt_or_ge count added.length with hlt | hge
    · refine .inr (Nat.le_antisymm hsize ?_)
      show f.limit ≤ clusterCount typed.text
      rw [htypedText]
      exact hfills.full hlt
    · exact .inl (by rw [htypedText, List.take_of_length_le hge])
  refine ⟨hpastedText, hprefix, hall, hsize, hdone, ?_⟩
  constructor
  · intro heq
    have hsame : pasted.size = typed.size := congrArg clusterCount heq
    rw [heq, hsame]
    exact hdone
  · rintro (hin | hfull)
    · exact hprefix.eq_of_length_le (hin ▸ hall.length_le)
    · have hcount : count ≤ f.limit - f.size := by
        apply hfills.le_of_full
        rw [← hpastedText]
        exact Nat.le_of_eq hfull.symm
      apply hprefix.eq_of_length_le
      rw [hpastedText, htypedText, List.length_append, List.length_append]
      exact Nat.add_le_add_left (List.take_prefix_take_left hcount).length_le _

/-- Behind a one there is room for two clusters. Of an accent, a two, an accent and a three, a paste puts
in the first two characters; typed, the accents take up no room, and all four go in. -/
theorem paste_typed_at_end_accents :
    let f := (ofLimit 3).run [.edit (.insert '1')]
    let added := "\u03012\u03013".toList
    f.cursor = f.size ∧ (f.edit (.paste added)).getD f = holding 3 "1\u03012".toList ∧
      f.run (LineAct.typed added) = holding 3 "1\u03012\u03013".toList ∧
      ((f.edit (.paste added)).getD f).text <+: (f.run (LineAct.typed added)).text ∧
      ((f.edit (.paste added)).getD f).text ≠ (f.run (LineAct.typed added)).text := by
  intro f added
  have hend : f.cursor = f.size := by decide +kernel
  have hpasted : (f.edit (.paste added)).getD f = holding 3 "1\u03012".toList := by decide +kernel
  obtain ⟨-, hprefix, -, -, -, hiff⟩ := paste_typed_at_end 3 [.edit (.insert '1')] added hend
  refine ⟨hend, hpasted, by decide +kernel, hprefix, fun heq => ?_⟩
  have hin := hiff.1 heq
  rw [hpasted] at hin
  exact absurd hin (by decide +kernel)

/-- A one and two accents are a single cluster, of two that there is room for; a paste leaves the second
accent out all the same, and typing does not. -/
theorem paste_leaves_out_accent :
    let f := (ofLimit 2).run []
    let added := "1\u0301\u0301".toList
    f.cursor = f.size ∧ ((f.edit (.paste added)).getD f).text = "1\u0301".toList ∧
      (f.run (LineAct.typed added)).text = "1\u0301\u0301".toList ∧
      ((f.edit (.paste added)).getD f).text ≠ (f.run (LineAct.typed added)).text := by
  decide +kernel

end ResidualField

namespace ArgumentField

variable {f f' : ArgumentField}

theorem run_typed_cons (f : ArgumentField) (c : Char) (rest : List Char) :
    f.run (LineAct.typed (c :: rest)) = ((f.enter c).getD f).run (LineAct.typed rest) :=
  rfl

theorem enter_of_text_ne (h : f.text ≠ []) (c : Char) : f.enter c = none := by
  rw [enter, if_neg (by simp [h])]

theorem run_typed_of_text_ne (h : f.text ≠ []) (text : List Char) :
    f.run (LineAct.typed text) = f := by
  induction text with
  | nil => rfl
  | cons c rest ih =>
    rw [run_typed_cons, enter_of_text_ne h, Option.getD_none, ih]

theorem length_lt_of_enter {c : Char} (h : f.enter c = some f') :
    f.text.length < f'.text.length := by
  rw [enter] at h
  split at h
  · cases h
    exact f.draft.length_insert c ▸ Nat.lt_succ_self _
  · cases h

theorem length_lt_of_edit {e : Edit} (hin : e.putsIn = true) (he : f.edit e = some f') :
    f.text.length < f'.text.length := by
  cases e with
  | insert c => exact length_lt_of_enter he
  | paste text =>
    obtain ⟨c, -, hc⟩ := Option.bind_eq_some_iff.1 he
    exact length_lt_of_enter hc
  | _ => cases hin

theorem text_ne_of_enter {c : Char} (h : f.enter c = some f') : f'.text ≠ [] :=
  List.ne_nil_of_length_pos (Nat.zero_lt_of_lt (length_lt_of_enter h))

/-- The first digit goes in either way, if there is none yet. -/
theorem run_typed_eq_paste (f : ArgumentField) (text : List Char) :
    f.run (LineAct.typed text) = (f.edit (.paste text)).getD f := by
  induction text with
  | nil => rfl
  | cons c rest ih =>
    rw [edit] at ih ⊢
    rw [run_typed_cons]
    by_cases hdigit : c.isDigit = true
    · rw [List.find?_cons_of_pos hdigit, Option.bind_some]
      cases hc : f.enter c with
      | none =>
        -- a digit is refused by a field that holds one
        have hne : f.text ≠ [] := by
          intro hempty
          rw [enter, if_pos (by simp [hdigit, hempty])] at hc
          cases hc
        rw [Option.getD_none, run_typed_of_text_ne hne]
      | some f' => rw [Option.getD_some, run_typed_of_text_ne (text_ne_of_enter hc)]
    · have hnone : f.enter c = none := by rw [enter, if_neg (by simp [hdigit])]
      rw [hnone, Option.getD_none, ih, List.find?_cons_of_neg hdigit]

end ArgumentField
end ResidualForm
