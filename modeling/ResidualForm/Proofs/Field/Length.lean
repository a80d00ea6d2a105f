import Mathlib.Algebra.Order.BigOperators.Group.List
import Mathlib.Algebra.Order.Group.Nat
import ResidualForm.Proofs.Field.Run

/-!
# ResidualForm.Proofs.Field.Length

How many characters a residual field holds. Room in it is counted in clusters, and its rule for
digits counts characters; the two differ where characters have merged.

* `Text.merged_iff` — a text with fewer clusters than characters has a cluster of several.
* `Draft.length_le_of_edit` — how far an edit brings a text above a limit: by no more characters than
  have merged before it.
* `within_limit_unless_merged` — what follows for every state that a field can reach.
* `exists_length_ge` — the characters that merge are not limited.
-/

namespace ResidualForm

namespace Text

/-- Some characters of the text have merged into one cluster. -/
def Merged (text : List Char) : Prop :=
  ∃ cluster ∈ clusters text, 2 ≤ cluster.length

instance (text : List Char) : Decidable (Merged text) :=
  inferInstanceAs (Decidable (∃ cluster ∈ clusters text, 2 ≤ cluster.length))

theorem merged_iff {text : List Char} : Merged text ↔ clusterCount text < text.length := by
  have hcount : clusterCount text = ((clusters text).map fun _ => 1).sum := by simp [clusterCount]
  have hlength : text.length = ((clusters text).map List.length).sum := by
    rw [← List.length_flatten, clusters_flatten]
  rw [hcount, hlength]
  constructor
  · rintro ⟨cluster, hcluster, hlong⟩
    refine List.sum_lt_sum _ _ (fun c hc => ?_) ⟨cluster, hcluster, hlong⟩
    exact List.length_pos_iff.2 (cluster_ne_nil hc)
  · intro hlt
    by_contra hnone
    refine Nat.not_le_of_lt hlt (List.sum_le_sum fun c hc => ?_)
    exact Nat.le_of_lt_succ (Nat.lt_of_not_le fun hlong => hnone ⟨c, hc, hlong⟩)

example : Merged "1\r\n".toList := by decide +kernel

theorem clusterCount_eq_length {text : List Char} (h : ¬ Merged text) :
    clusterCount text = text.length :=
  Nat.le_antisymm (clusterCount_le_length text) (Nat.le_of_not_lt (mt merged_iff.2 h))

theorem not_merged_of_length_le_one {text : List Char} (h : text.length ≤ 1) : ¬ Merged text := by
  intro hm
  have hlt := merged_iff.1 hm
  have hne : text ≠ [] := by
    rintro rfl
    exact Nat.not_lt_zero _ hlt
  have hpos := clusterCount_pos hne
  omega

/-- Digits do not merge. -/
theorem Merged.exists_nonDigit {text : List Char} (h : Merged text) :
    ∃ c ∈ text, c.isDigit = false := by
  by_contra hnone
  have hd : ∀ c ∈ text, c.isDigit = true := by
    intro c hc
    by_contra hfalse
    exact hnone ⟨c, hc, Bool.eq_false_of_not_eq_true hfalse⟩
  exact absurd (merged_iff.1 h) (clusterCount_of_forall_digit hd ▸ Nat.lt_irrefl _)

end Text

/-- An edit for whose characters there is room, counted in clusters. What the text then has above the
limit, it has had above its size before. -/
theorem Draft.length_le_of_edit {d d' : Draft} {limit : Nat} {e : Edit} (hs : d.size ≤ limit)
    (hw : e.Within limit d.size) (he : d.edit e = some d') :
    d'.text.length + d.size ≤ limit + d.text.length := by
  have hsize : d.size ≤ d.text.length := Text.clusterCount_le_length d.text
  cases e with
  | insert c =>
    cases he
    have hroom : d.size < limit := hw
    have hlength := d.length_insert c
    omega
  | paste text =>
    cases he
    have hroom : text.length ≤ limit - d.size := hw
    have hlength := d.length_paste text
    omega
  | backspace =>
    obtain ⟨-, rfl⟩ := backspace_eq_some_iff.1 he
    have hlength := (d.sublist_without (d.cursor - 1)).length_le
    show (d.without (d.cursor - 1)).length + d.size ≤ _
    omega
  | delete =>
    obtain ⟨-, rfl⟩ := delete_eq_some_iff.1 he
    have hlength := (d.sublist_without d.cursor).length_le
    show (d.without d.cursor).length + d.size ≤ _
    omega
  | clear =>
    cases he
    show 0 + d.size ≤ _
    omega
  | replace text =>
    cases he
    have hroom : text.length ≤ limit := hw
    show text.length + d.size ≤ _
    omega

theorem digitFault?_eq_tooLong_iff {limit length bound : Nat} {text : List Char} :
    digitFault? limit text = some (.tooLong length bound) ↔
      limit < text.length ∧ length = text.length ∧ bound = limit := by
  rw [digitFault?]
  split
  · rename_i hlt
    simp [hlt, eq_comm]
  · rename_i hle
    split <;> simp [hle]

namespace ResidualField

variable {limit : Nat} {f f' : ResidualField} {e : Edit}

theorem Fits.length_le_of_edit (h : f.Fits limit) (he : f.edit e = some f') :
    f'.text.length + f.size ≤ limit + f.text.length := by
  obtain ⟨e', d, hwithin, hd, rfl⟩ := exists_edit_draft he
  rw [h.limit_eq] at hwithin
  exact Draft.length_le_of_edit h.size_le hwithin hd

theorem Fits.merged_of_lt (h : f.Fits limit) (hlt : limit < f.text.length) : Text.Merged f.text :=
  Text.merged_iff.2 (Nat.lt_of_le_of_lt h.size_le hlt)

theorem Fits.length_le_after_single (h : f.Fits limit) (hm : ¬ Text.Merged f.text)
    (he : f.edit e = some f') : f'.text.length ≤ limit := by
  have hsize : f.size = f.text.length := Text.clusterCount_eq_length hm
  have hedit := h.length_le_of_edit he
  omega

theorem Fits.valid_iff (h : f.Fits limit) : f.valid = true ↔ ∀ c ∈ f.text, c.isDigit = true := by
  rw [ResidualField.valid_iff, h.limit_eq]
  refine and_iff_right_of_imp fun hd => ?_
  exact Text.clusterCount_of_forall_digit hd ▸ h.size_le

theorem length_replace_le (f : ResidualField) (text : List Char) :
    ((f.edit (.replace text)).getD f).text.length ≤ f.limit := by
  rw [text_replace]
  exact List.length_take_le _ _

/-- With room for a single character there is nothing to merge with. -/
theorem length_le_one (acts : List LineAct) (hl : limit ≤ 1) :
    ((ofLimit limit).run acts).text.length ≤ 1 := by
  have hfits : (ofLimit limit).Fits 1 := by
    have h := fits_ofLimit limit
    rwa [Nat.max_eq_right hl] at h
  refine (LineAct.foldl_apply (P := fun f : ResidualField => f.Fits 1 ∧ f.text.length ≤ 1) ?_ ?_
    ⟨hfits, Nat.zero_le 1⟩ acts).2
  · rintro f e f' ⟨h, hlength⟩ he
    exact ⟨h.edit he, h.length_le_after_single (Text.not_merged_of_length_le_one hlength) he⟩
  · rintro f m ⟨h, hlength⟩
    refine ⟨h.move m, ?_⟩
    cases m <;> exact hlength

/-- In every state that a residual field can reach, it has no more clusters than its limit; and it has
more characters only where some of them have merged. So a text is called too long only if characters
have merged in it, which digits do not: a field is valid just if it holds nothing but digits. The
limit is kept in characters by a replacement of the text, by every edit of a text in which none have
merged, and always where it is a single one. -/
theorem within_limit_unless_merged (limit : Nat) (acts : List LineAct) :
    let f := (ofLimit limit).run acts
    f.limit = max limit 1 ∧ f.size ≤ f.limit ∧
      (f.limit < f.text.length → Text.Merged f.text) ∧
      (∀ length bound, f.fault? = some (.tooLong length bound) →
        length = f.text.length ∧ bound = f.limit ∧ Text.Merged f.text ∧
          ∃ c ∈ f.text, c.isDigit = false) ∧
      (f.valid = true ↔ ∀ c ∈ f.text, c.isDigit = true) ∧
      (∀ text, ((f.edit (.replace text)).getD f).text.length ≤ f.limit) ∧
      (¬ Text.Merged f.text → ∀ e f', f.edit e = some f' → f'.text.length ≤ f'.limit) ∧
      (limit ≤ 1 → f.text.length ≤ 1) := by
  intro f
  have h : f.Fits (max limit 1) := (fits_ofLimit limit).run acts
  have hmerged : f.limit < f.text.length → Text.Merged f.text :=
    fun hlt => h.merged_of_lt (h.limit_eq ▸ hlt)
  refine ⟨h.limit_eq, h.limit_eq ▸ h.size_le, hmerged, ?_, h.valid_iff, f.length_replace_le, ?_,
    length_le_one acts⟩
  · intro length bound hfault
    obtain ⟨hlt, hlength, hbound⟩ := digitFault?_eq_tooLong_iff.1 hfault
    exact ⟨hlength, hbound, hmerged hlt, (hmerged hlt).exists_nonDigit⟩
  · intro hm e f' he
    rw [(h.edit he).limit_eq]
    exact h.length_le_after_single hm he

/-- A woman, a joiner and a rocket are one cluster, and a fourth character joins it. -/
def astronaut : List LineAct :=
  [.edit (.paste "👩\u200d🚀".toList), .edit (.insert '🏽')]

theorem within_limit_unless_merged_astronaut :
    let f := (ofLimit 3).run astronaut
    f.fault? = some (.tooLong 4 3) ∧ f.size = 1 ∧ 4 = f.text.length ∧ 3 = f.limit ∧
      Text.Merged f.text ∧ ((f.edit (.replace "1234".toList)).getD f).text.length ≤ f.limit := by
  intro f
  have hfault : f.fault? = some (.tooLong 4 3) := by decide +kernel
  obtain ⟨-, -, -, htooLong, -, hreplace, -⟩ := within_limit_unless_merged 3 astronaut
  obtain ⟨hlength, hlimit, hmerged, -⟩ := htooLong 4 3 hfault
  exact ⟨hfault, by decide +kernel, hlength, hlimit, hmerged, hreplace _⟩

/-- Two accents go over a one. There is room for one more cluster before each of them, and then there
are more characters than the limit allows. -/
theorem length_above_limit_accents :
    let f := (ofLimit 2).run [.edit (.insert '1'), .edit (.insert '\u0301'), .edit (.insert '\u0301')]
    f.limit = 2 ∧ f.text.length = 3 ∧ f.size = 1 ∧ f.fault? = some (.tooLong 3 2) := by
  decide +kernel

/-- A one under so many accents. -/
def accented (n : Nat) : List Char :=
  '1' :: List.replicate n '\u0301'

theorem accented_concat (n : Nat) : accented n ++ ['\u0301'] = accented (n + 1) := by
  rw [accented, List.cons_append, ← List.replicate_succ', accented]

theorem clusters_accented (n : Nat) : Text.clusters (accented n) = [accented n] := by
  have haccent : Text.joint '\u0301' = .extend := by decide +kernel
  have hone : (Text.joint '1').tail = .plain := by decide +kernel
  have hrest : Text.clustersAfter .plain (List.replicate n '\u0301') =
      (List.replicate n '\u0301', []) :=
    Text.clustersAfter_replicate (by rw [haccent]; rfl) (by rw [haccent]; rfl) n
  rw [accented, Text.clusters, hone, hrest]

/-- Room for a second cluster is never used up by accents. -/
theorem insert_accent (hl : 2 ≤ limit) (n : Nat) :
    ResidualField.edit { draft := ⟨accented n, 1⟩, limit } (.insert '\u0301') =
      some { draft := ⟨accented (n + 1), 1⟩, limit } := by
  have hsize (k : Nat) : Text.clusterCount (accented k) = 1 := by
    rw [Text.clusterCount, clusters_accented, List.length_singleton]
  have htext : (Draft.splice ⟨accented n, 1⟩ ['\u0301']).text = accented (n + 1) := by
    simp [Draft.splice, Draft.before, Draft.after, Text.takeClusters, Text.dropClusters,
      clusters_accented, accented_concat]
  have hinsert : Draft.insert ⟨accented n, 1⟩ '\u0301' = ⟨accented (n + 1), 1⟩ := by
    rw [Draft.insert, Draft.advance, Draft.size, htext, hsize]
    rfl
  have hroom : ¬ limit ≤ Text.clusterCount (accented n) := by
    rw [hsize]
    omega
  rw [edit, size, Draft.size, if_neg hroom, hinsert]

theorem exists_run_accented (hl : 2 ≤ limit) (n : Nat) :
    ∃ acts, (ofLimit limit).run acts = { draft := ⟨accented n, 1⟩, limit } := by
  induction n with
  | zero =>
    have hone : Draft.insert {} '1' = ⟨accented 0, 1⟩ := by decide +kernel
    have hroom : ¬ (ofLimit limit).limit ≤ (ofLimit limit).size := by
      show ¬ max limit 1 ≤ 0
      omega
    refine ⟨[.edit (.insert '1')], ?_⟩
    show ((ofLimit limit).edit (.insert '1')).getD (ofLimit limit) = _
    rw [edit, if_neg hroom]
    show ResidualField.mk (Draft.insert {} '1') (max limit 1) = _
    rw [hone, Nat.max_eq_left (Nat.le_of_succ_le hl)]
  | succ n ih =>
    obtain ⟨acts, hacts⟩ := ih
    refine ⟨acts ++ [.edit (.insert '\u0301')], ?_⟩
    rw [run] at hacts ⊢
    rw [List.foldl_append, hacts, List.foldl_cons, List.foldl_nil, LineAct.apply,
      insert_accent hl n, Option.getD_some]

/-- No limit but one keeps the number of characters within any bound. -/
theorem exists_length_ge (hl : 2 ≤ limit) (n : Nat) :
    ∃ acts, n ≤ ((ofLimit limit).run acts).text.length := by
  obtain ⟨acts, hacts⟩ := exists_run_accented hl n
  exact ⟨acts, by simp [hacts, text, accented]⟩

end ResidualField
end ResidualForm
