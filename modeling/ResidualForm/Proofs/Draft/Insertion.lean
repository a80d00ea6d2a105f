import ResidualForm.Proofs.Draft.Size

/-!
# ResidualForm.Proofs.Draft.Insertion

Where the cursor stands after an insertion. It passes as many clusters as the inserted text has on
its own; the text may merge with what stands before it, and with what stands behind it.

* `Text.InStep` — the inserted text adds as many clusters to those before it as it has on its own, or
  else nothing begins behind it.
* `Draft.Spliced` — an insertion that left the cursor at the first break behind what was put in.
* `Draft.Splits.spliced_paste_iff` — a text put in at once is spliced just if it keeps in step.
* `Draft.Splits.spliced_type` — one that is put in character by character is, if each character keeps
  in step, and if the text breaks behind each but the last. There the next one goes in.
* `Draft.splice_at_cursor` — both, in every state that a line can reach.
-/

namespace ResidualForm

namespace Text

/-- The two parts have as many clusters together as on their own; or else they have all that there
are, and nothing begins behind them. -/
def InStep (before added after : List Char) : Prop :=
  clusterCount (before ++ added) = clusterCount before + clusterCount added ∨
    clusterCount (before ++ added) = clusterCount (before ++ added ++ after)

instance (before added after : List Char) : Decidable (InStep before added after) :=
  inferInstanceAs (Decidable (_ ∨ _))

theorem inStep_nil (before added : List Char) : InStep before added [] :=
  .inr (by rw [List.append_nil])

theorem breaks_nil (before : List Char) : Breaks before [] :=
  fun _ hc => nomatch hc

theorem breaks_cons_iff {before rest : List Char} {c : Char} :
    Breaks before (c :: rest) ↔ (tailOf (before.map joint)).joins (joint c) = false := by
  rw [breaks_iff_joins]
  simp

instance (before : List Char) : (after : List Char) → Decidable (Breaks before after)
  | [] => isTrue (breaks_nil before)
  | _ :: _ => decidable_of_iff _ breaks_cons_iff.symm

theorem eq_of_prefix_of_byteLength_eq {a b : List Char} (h : a <+: b)
    (hl : byteLength a = byteLength b) : a = b := by
  obtain ⟨more, rfl⟩ := h
  rw [byteLength_append] at hl
  by_cases hm : more = []
  · rw [hm, List.append_nil]
  · have hpos := byteLength_pos hm
    omega

/-- A text has one place at each offset. -/
theorem split_unique {a b c d : List Char} (h : a ++ b = c ++ d)
    (hl : byteLength a = byteLength c) : a = c ∧ b = d := by
  have hac : a = c := by
    rcases List.prefix_or_prefix_of_prefix ⟨b, h⟩ (List.prefix_append c d) with hp | hp
    · exact eq_of_prefix_of_byteLength_eq hp hl
    · exact (eq_of_prefix_of_byteLength_eq hp hl.symm).symm
  subst hac
  exact ⟨rfl, List.append_cancel_left h⟩

theorem takeClusters_min (n : Nat) (text : List Char) :
    takeClusters (min n (clusterCount text)) text = takeClusters n text := by
  rcases Nat.le_total n (clusterCount text) with h | h
  · rw [Nat.min_eq_left h]
  · rw [Nat.min_eq_right h, takeClusters_of_le h, takeClusters_of_le (Nat.le_refl _)]

/-- Different numbers of clusters end at different places, as long as there are so many. -/
theorem byteLength_takeClusters_eq_iff {m n : Nat} (h : m ≤ n) (text : List Char) :
    byteLength (takeClusters n text) = byteLength (takeClusters m text) ↔
      m = n ∨ clusterCount text ≤ m := by
  constructor
  · intro hl
    have heq := eq_of_prefix_of_byteLength_eq (takeClusters_mono h text) hl.symm
    have hcount := congrArg clusterCount heq
    rw [clusterCount_takeClusters, clusterCount_takeClusters] at hcount
    omega
  · rintro (rfl | hle)
    · rfl
    · rw [takeClusters_of_le hle, takeClusters_of_le (Nat.le_trans hle h)]

end Text

namespace Draft

/-- The characters are put in one by one, and nothing is done in between. -/
def type (d : Draft) (added : List Char) : Draft :=
  added.foldl insert d

/-- The cursor stands between these two parts of the text. -/
structure Splits (d : Draft) (before after : List Char) : Prop where
  placed : d.Placed
  before_eq : d.before = before
  after_eq : d.after = after

/-- `added` stands between the two parts, and the cursor at the first break from its end on. -/
structure Spliced (d : Draft) (before added after : List Char) : Prop where
  text_eq : d.text = before ++ added ++ after
  offset : IsLeast { n | Text.Boundary d.text n ∧ Text.byteLength (before ++ added) ≤ n }
    d.byteOffset

variable {d : Draft} {before added after : List Char}

theorem insert_eq_paste (d : Draft) (c : Char) : d.insert c = d.paste [c] := rfl

theorem Placed.splits (h : d.Placed) (ht : before ++ after = d.text)
    (ho : Text.byteLength before = d.byteOffset) : d.Splits before after := by
  obtain ⟨hb, ha⟩ := Text.split_unique (ht.trans d.before_append_after.symm) ho
  exact ⟨h, hb.symm, ha.symm⟩

theorem Splits.cursor_eq (h : d.Splits before after) : d.cursor = Text.clusterCount before := by
  rw [← h.before_eq, Draft.before, Text.clusterCount_takeClusters]
  exact (Nat.min_eq_left h.placed).symm

theorem Splits.text_paste (h : d.Splits before after) (added : List Char) :
    (d.paste added).text = before ++ added ++ after := by
  rw [← h.before_eq, ← h.after_eq]
  rfl

/-- The cursor passes as many clusters as both parts have on their own. -/
theorem Splits.before_paste (h : d.Splits before after) (added : List Char) :
    (d.paste added).before =
      Text.takeClusters (Text.clusterCount before + Text.clusterCount added)
        (before ++ added ++ after) := by
  rw [← h.text_paste, ← h.cursor_eq]
  exact Text.takeClusters_min _ _

/-- It is never left in front of the end of the inserted text, nor inside a cluster. -/
theorem Splits.le_byteOffset_paste (h : d.Splits before after) (added : List Char) :
    Text.byteLength (before ++ added) ≤ (d.paste added).byteOffset := by
  rw [byteOffset, h.before_paste]
  exact Text.byteLength_le_of_prefix
    ((Text.prefix_takeClusters_append _ after).trans
      (Text.takeClusters_mono (Text.clusterCount_append_le before added) _))

theorem Splits.spliced_paste_iff (h : d.Splits before after) :
    (d.paste added).Spliced before added after ↔ Text.InStep before added after := by
  have hle := Text.clusterCount_append_le before added
  have hmore := Text.clusterCount_le_append (before ++ added) after
  have hleast := Text.isLeast_boundary (before ++ added) after
  have hiff := Text.byteLength_takeClusters_eq_iff hle (before ++ added ++ after)
  have hoffset : (d.paste added).byteOffset =
      Text.byteLength (Text.takeClusters
        (Text.clusterCount before + Text.clusterCount added) (before ++ added ++ after)) := by
    rw [byteOffset, h.before_paste]
  constructor
  · rintro ⟨htext, hplace⟩
    rw [htext, hoffset] at hplace
    rcases hiff.1 (hplace.unique hleast) with heq | hge
    · exact .inl heq
    · exact .inr (Nat.le_antisymm hmore hge)
  · intro hstep
    refine ⟨h.text_paste added, ?_⟩
    rw [h.text_paste, hoffset, hiff.2 (hstep.imp_right Eq.ge)]
    exact hleast

/-- Where the text breaks behind what was put in, the next insertion takes its place there. -/
theorem Spliced.splits (h : d.Spliced before added after) (hp : d.Placed)
    (hb : Text.Breaks (before ++ added) after) : d.Splits (before ++ added) after := by
  apply hp.splits h.text_eq.symm
  obtain ⟨⟨-, hle⟩, hleast⟩ := h.offset
  exact Nat.le_antisymm hle (hleast ⟨⟨_, _, h.text_eq.symm, rfl, hb⟩, Nat.le_refl _⟩)

/-- Each character keeps in step with those before it, and the text breaks behind each but the last. -/
def TypesInStep (before : List Char) : List Char → List Char → Prop
  | [], _ => True
  | c :: rest, after =>
    Text.InStep before [c] after ∧ (rest ≠ [] → Text.Breaks (before ++ [c]) after) ∧
      TypesInStep (before ++ [c]) rest after

instance decidableTypesInStep (before : List Char) :
    (added after : List Char) → Decidable (TypesInStep before added after)
  | [], _ => inferInstanceAs (Decidable True)
  | c :: rest, after =>
    have := decidableTypesInStep (before ++ [c]) rest after
    inferInstanceAs (Decidable (_ ∧ (_ → _) ∧ _))

theorem typesInStep_nil (before added : List Char) : TypesInStep before added [] := by
  induction added generalizing before with
  | nil => trivial
  | cons c rest ih => exact ⟨Text.inStep_nil before [c], fun _ => Text.breaks_nil _, ih _⟩

theorem Splits.spliced_type (h : d.Splits before after) (hs : TypesInStep before added after) :
    (d.type added).Spliced before added after := by
  induction added generalizing d before with
  | nil =>
    have htext : d.text = before ++ [] ++ after := by
      rw [← h.before_eq, ← h.after_eq, List.append_nil, d.before_append_after]
    have hoffset : Text.byteLength (before ++ []) = d.byteOffset := by
      rw [← h.before_eq, List.append_nil, byteOffset]
    refine ⟨htext, ⟨d.boundary_byteOffset, hoffset.le⟩, ?_⟩
    rintro n ⟨-, hn⟩
    exact hoffset ▸ hn
  | cons c rest ih =>
    obtain ⟨hstep, hbreak, hrest⟩ := hs
    have hone : (d.insert c).Spliced before [c] after := by
      rw [insert_eq_paste]
      exact h.spliced_paste_iff.2 hstep
    by_cases hr : rest = []
    · subst hr
      exact hone
    · have hsplits := hone.splits (placed_advance _ _) (hbreak hr)
      obtain ⟨htext, hoffset⟩ := ih hsplits hrest
      rw [List.append_assoc before [c] rest] at htext hoffset
      exact ⟨htext, hoffset⟩

/-- In every state that a line can reach, a text that is inserted comes to stand between what was
before the cursor and what was behind it, and the cursor at a break that is not in front of its end.
It is the first such break where the inserted text keeps in step with what is before it. Where each
character does so, and leaves a break behind it for the next, the same holds of the text if it is put
in character by character; and all this is always true at the end of a line. -/
theorem splice_at_cursor (acts : List LineAct) (before after added : List Char) :
    let d := ({} : Draft).run acts
    before ++ after = d.text → Text.byteLength before = d.byteOffset →
      (d.paste added).text = before ++ added ++ after ∧
        Text.Boundary (d.paste added).text (d.paste added).byteOffset ∧
        Text.byteLength (before ++ added) ≤ (d.paste added).byteOffset ∧
        (Text.InStep before added after → (d.paste added).Spliced before added after) ∧
        (TypesInStep before added after → (d.type added).Spliced before added after) ∧
        (after = [] →
          (d.paste added).Spliced before added after ∧ (d.type added).Spliced before added after) := by
  intro d ht ho
  have h : d.Splits before after := (placed_empty.run acts).splits ht ho
  refine ⟨h.text_paste added, boundary_byteOffset _, h.le_byteOffset_paste added,
    h.spliced_paste_iff.2, h.spliced_type, ?_⟩
  rintro rfl
  exact ⟨h.spliced_paste_iff.2 (Text.inStep_nil before added),
    h.spliced_type (typesInStep_nil before added)⟩

/-- Two flags go in behind a first one: it pairs off with the one, and the other stays alone. A digit
and a CR are typed in front of an LF, which merges with the CR. -/
theorem splice_at_cursor_flags :
    let d := ({} : Draft).run [.edit (.paste "🇩x".toList), .move .left]
    let e := ({} : Draft).run [.edit (.paste "1\n".toList), .move .left]
    "🇩".toList ++ "x".toList = d.text ∧ Text.byteLength "🇩".toList = d.byteOffset ∧
      Text.InStep "🇩".toList "🇪🇫".toList "x".toList ∧
      (d.paste "🇪🇫".toList).Spliced "🇩".toList "🇪🇫".toList "x".toList ∧
      "1".toList ++ "\n".toList = e.text ∧ Text.byteLength "1".toList = e.byteOffset ∧
      TypesInStep "1".toList "2\r".toList "\n".toList ∧
      (e.type "2\r".toList).Spliced "1".toList "2\r".toList "\n".toList ∧
      (e.type "2\r".toList).byteOffset = 4 := by
  intro d e
  have hd : "🇩".toList ++ "x".toList = d.text := by decide +kernel
  have hdo : Text.byteLength "🇩".toList = d.byteOffset := by decide +kernel
  have hstep : Text.InStep "🇩".toList "🇪🇫".toList "x".toList := by decide +kernel
  have he : "1".toList ++ "\n".toList = e.text := by decide +kernel
  have heo : Text.byteLength "1".toList = e.byteOffset := by decide +kernel
  have htypes : TypesInStep "1".toList "2\r".toList "\n".toList := by decide +kernel
  obtain ⟨-, -, -, hpaste, -⟩ := splice_at_cursor _ _ _ "🇪🇫".toList hd hdo
  obtain ⟨-, -, -, -, htype, -⟩ := splice_at_cursor _ _ _ "2\r".toList he heo
  exact ⟨hd, hdo, hstep, hpaste hstep, he, heo, htypes, htype htypes, by decide +kernel⟩

/-- Two letters are typed in front of an accent. The cursor counts clusters and cannot stand between
the first of them and the accent, so the second one goes in behind both. And an accent that is put in
behind a letter merges with it: there are no more clusters than before, but the cursor passes one. -/
theorem accents_not_spliced :
    let d := ({} : Draft).run [.edit (.paste "\u0301x".toList), .move .toStart]
    let e := ({} : Draft).run [.edit (.paste "ab".toList), .move .left]
    [] ++ "\u0301x".toList = d.text ∧ Text.byteLength [] = d.byteOffset ∧
      (d.insert 'a').before = "a\u0301".toList ∧
      (d.type "ab".toList).text = "a\u0301bx".toList ∧
      ¬ (d.type "ab".toList).Spliced [] "ab".toList "\u0301x".toList ∧
      "a".toList ++ "b".toList = e.text ∧ Text.byteLength "a".toList = e.byteOffset ∧
      (e.paste "\u0301".toList).before = "a\u0301b".toList ∧
      ¬ (e.paste "\u0301".toList).Spliced "a".toList "\u0301".toList "b".toList := by
  intro d e
  have htext : (d.type "ab".toList).text = "a\u0301bx".toList := by decide +kernel
  have he : "a".toList ++ "b".toList = e.text := by decide +kernel
  have heo : Text.byteLength "a".toList = e.byteOffset := by decide +kernel
  have hsplits : e.Splits "a".toList "b".toList := (placed_empty.run _).splits he heo
  refine ⟨by decide +kernel, by decide +kernel, by decide +kernel, htext, ?_, he, heo,
    by decide +kernel, ?_⟩
  · intro h
    exact absurd (htext.symm.trans h.text_eq) (by decide +kernel)
  · rw [hsplits.spliced_paste_iff]
    decide +kernel

end Draft
end ResidualForm
