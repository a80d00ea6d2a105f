import ResidualForm.Proofs.Text.Boundary
import ResidualForm.Screen.Canvas

/-!
# ResidualForm.Proofs.Screen.Line

What becomes of a text that is drawn on a line.

* `glyphs_takeClusters_append` — the glyphs of a text are those of the two parts it is cut into.
* `fit_append`, `Canvas.putGlyphs_append` — glyphs that have room are all drawn, and what comes after
  them begins where they end: as many cells further on as they fill (`filledCells`).
* `control_cluster` — a control character is a cluster of its own, except for CR before LF.
* `totalColumns_eq` — hence the columns of clusters are the cells they fill, and one more for each that
  is not drawn.
-/

namespace ResidualForm
namespace Screen

/-! ## Cells -/

/-- The cells that glyphs fill side by side where there is room for all of them. -/
def filledCells : List Glyph → Nat
  | [] => 0
  | g :: rest => g.columns + filledCells rest

@[simp] theorem filledCells_append (glyphs more : List Glyph) :
    filledCells (glyphs ++ more) = filledCells glyphs + filledCells more := by
  induction glyphs with
  | nil => simp [filledCells]
  | cons g rest ih => simp [filledCells, ih, Nat.add_assoc]

/-- The cells that a text fills. -/
def drawnCells (text : List Char) : Nat :=
  filledCells (Span.glyphs { text })

theorem filledCells_glyphs (s : Span) : filledCells s.glyphs = drawnCells s.text := by
  rw [drawnCells, Span.glyphs, Span.glyphs]
  induction drawnClusters s.text with
  | nil => rfl
  | cons cluster rest ih => simp only [List.map_cons, filledCells, ih]

theorem glyphs_takeClusters_append (n : Nat) (text : List Char) (style : Style) :
    Span.glyphs { text, style } =
      Span.glyphs { text := Text.takeClusters n text, style } ++
        Span.glyphs { text := Text.dropClusters n text, style } := by
  simp only [Span.glyphs, drawnClusters, Text.clusters_takeClusters, Text.clusters_dropClusters]
  rw [← List.map_append, ← List.filter_append, List.take_append_drop]

theorem fit_append {width used : Nat} {glyphs : List Glyph}
    (h : used + filledCells glyphs ≤ width) (more : List Glyph) :
    fit width used (glyphs ++ more) = glyphs ++ fit width (used + filledCells glyphs) more := by
  induction glyphs generalizing used with
  | nil => rfl
  | cons g rest ih =>
    rw [filledCells] at h ⊢
    rw [List.cons_append, fit, if_neg (by omega), if_neg (by omega), ih (by omega), Nat.add_assoc,
      List.cons_append]

theorem Canvas.putGlyphs_append (c : Canvas) (x y : Nat) (glyphs more : List Glyph) :
    c.putGlyphs x y (glyphs ++ more) =
      (c.putGlyphs x y glyphs).putGlyphs (x + filledCells glyphs) y more := by
  induction glyphs generalizing c x with
  | nil => rfl
  | cons g rest ih =>
    rw [List.cons_append, putGlyphs, putGlyphs, filledCells]
    split
    · rename_i hg
      rw [ih, hg, Nat.zero_add]
    · rw [ih, Nat.add_assoc]

/-! ## Control characters -/

theorem joint_of_isControl {c : Char} (h : isControl c = true) :
    (Text.joint c).isControl = true := by
  have hval : c.toNat < 0x20 ∨ 0x7F ≤ c.toNat ∧ c.toNat < 0xA0 := by simpa [isControl] using h
  have hlow : c.toNat < 0x300 := by omega
  rw [Text.joint, if_pos hlow, Text.lowJoint]
  split
  · rfl
  split
  · rfl
  split
  · rfl
  rename_i hhigh
  have hprints : ¬ c.toNat < 0x7F := by omega
  have hlast : c.toNat < 0xA0 := by omega
  simp only [hprints, hlast, decide_true, Bool.true_or, if_true, if_false, Text.Joint.isControl]

theorem highJoint_ne {j : Text.Joint} (h : j = .cr ∨ j = .lf) (c : Char) :
    Text.highJoint c ≠ j := by
  have either {p : Prop} [Decidable p] {k l : Text.Joint} (hk : k ≠ j) (hl : l ≠ j) :
      (if p then k else l) ≠ j := by
    split
    · exact hk
    · exact hl
  rw [Text.highJoint]
  repeat' apply either
  all_goals rcases h with rfl | rfl <;> decide

theorem eq_of_joint_eq_cr {c : Char} (h : Text.joint c = .cr) : c = '\r' := by
  rw [Text.joint] at h
  split at h
  · rw [Text.lowJoint] at h
    split at h
    · assumption
    · repeat' split at h
      all_goals cases h
  · exact absurd h (highJoint_ne (.inl rfl) c)

theorem eq_of_joint_eq_lf {c : Char} (h : Text.joint c = .lf) : c = '\n' := by
  rw [Text.joint] at h
  split at h
  · rw [Text.lowJoint] at h
    split at h
    · cases h
    split at h
    · assumption
    · repeat' split at h
      all_goals cases h
  · exact absurd h (highJoint_ne (.inr rfl) c)

theorem push_not_control {t : Text.Tail} {j : Text.Joint} (h : t.joins j = true)
    (hj : j.isControl = false) : ¬ (t.push j = .control ∨ t.push j = .cr) := by
  revert h hj
  cases t <;> cases j <;> decide

theorem tail_control_iff (j : Text.Joint) :
    (j.tail = .control ∨ j.tail = .cr) ↔ j.isControl = true := by
  cases j <;> decide

/-- Nothing joins a control but LF, which joins CR. -/
theorem fst_clustersAfter_control {t : Text.Tail} (ht : t = .control ∨ t = .cr)
    (text : List Char) :
    (Text.clustersAfter t text).1 = [] ∨
      t = .cr ∧ (Text.clustersAfter t text).1 = ['\n'] := by
  cases text with
  | nil => exact .inl rfl
  | cons c rest =>
    cases hj : t.joins (Text.joint c) with
    | false => exact .inl (by simp [Text.clustersAfter, hj])
    | true =>
      rcases (Text.joins_iff t _).1 hj with ⟨rfl, hlf⟩ | ⟨hnot, -⟩
      · have hrest : (Text.clustersAfter .control rest).1 = [] :=
          Text.clustersAfter_fst_eq_nil_iff.2 fun _ _ => Text.control_joins _
        refine .inr ⟨rfl, ?_⟩
        rw [Text.clustersAfter, if_pos hj, hlf, eq_of_joint_eq_lf hlf]
        show '\n' :: (Text.clustersAfter .control rest).1 = ['\n']
        rw [hrest]
      · exact absurd ht hnot

/-- No control joins anything else. -/
theorem not_isControl_of_clustersAfter {t : Text.Tail} (ht : ¬ (t = .control ∨ t = .cr))
    {text : List Char} : ∀ c ∈ (Text.clustersAfter t text).1, isControl c = false := by
  induction text generalizing t with
  | nil => exact List.forall_mem_nil _
  | cons c rest ih =>
    cases hj : t.joins (Text.joint c) with
    | false => simp [Text.clustersAfter, hj]
    | true =>
      rcases (Text.joins_iff t _).1 hj with ⟨hcr, -⟩ | ⟨-, hjoint, -⟩
      · exact absurd (.inr hcr) ht
      · have hc : isControl c = false := by
          by_contra h
          rw [joint_of_isControl (Bool.eq_true_of_not_eq_false h)] at hjoint
          cases hjoint
        have hrest := ih (push_not_control hj hjoint)
        simpa [Text.clustersAfter, hj, hc] using hrest

theorem control_clusterAfter {t : Text.Tail} {text cluster : List Char}
    (h : cluster ∈ (Text.clustersAfter t text).2) (hc : cluster.any isControl = true) :
    (∃ c, isControl c = true ∧ cluster = [c]) ∨ cluster = ['\r', '\n'] := by
  induction text generalizing t with
  | nil => simp [Text.clustersAfter] at h
  | cons c rest ih =>
    rw [Text.clustersAfter] at h
    split at h
    · exact ih h
    rcases List.mem_cons.1 h with rfl | h
    · by_cases hjoint : (Text.joint c).isControl = true
      · rcases fst_clustersAfter_control ((tail_control_iff _).2 hjoint) rest with hnil | ⟨hcr, hlf⟩
        · rw [hnil] at hc ⊢
          exact .inl ⟨c, by simpa using hc, rfl⟩
        · have hjcr : Text.joint c = .cr := by
            revert hcr
            cases Text.joint c <;> decide
          rw [hlf, eq_of_joint_eq_cr hjcr]
          exact .inr rfl
      · have htail := mt (tail_control_iff (Text.joint c)).1 hjoint
        have hrest := @not_isControl_of_clustersAfter _ htail rest
        rw [List.any_cons, Bool.or_eq_true, List.any_eq_true] at hc
        rcases hc with hc | ⟨x, hx, hc⟩
        · exact absurd (joint_of_isControl hc) hjoint
        · rw [hrest x hx] at hc
          cases hc
    · exact ih h

/-- A control character is a cluster of its own, but CR and LF are one. -/
theorem control_cluster {text cluster : List Char} (h : cluster ∈ Text.clusters text)
    (hc : cluster.any isControl = true) :
    (∃ c, isControl c = true ∧ cluster = [c]) ∨ cluster = ['\r', '\n'] := by
  rw [Text.clusters_eq_clustersAfter] at h
  exact control_clusterAfter h hc

theorem columns_control {text cluster : List Char} (h : cluster ∈ Text.clusters text)
    (hc : cluster.any isControl = true) : Text.columns cluster = 1 := by
  rcases control_cluster h hc with ⟨c, hcontrol, rfl⟩ | rfl
  · have hval : c.toNat < 0x20 ∨ 0x7F ≤ c.toNat ∧ c.toNat < 0xA0 := by
      simpa [isControl] using hcontrol
    show 0 + Text.characterColumns c = 1
    rw [Text.characterColumns, if_pos (by omega), if_neg (by omega)]
  · decide

/-- The clusters of a text that are not drawn. -/
def undrawnClusters (text : List Char) : Nat :=
  (Text.clusters text).countP fun cluster => cluster.any isControl

theorem undrawnClusters_eq_zero_iff {text : List Char} :
    undrawnClusters text = 0 ↔ ∀ c ∈ text, isControl c = false := by
  rw [undrawnClusters, List.countP_eq_zero]
  constructor
  · intro h c hc
    rw [← Text.clusters_flatten text, List.mem_flatten] at hc
    obtain ⟨cluster, hcluster, hmem⟩ := hc
    by_contra hcontrol
    exact h cluster hcluster (List.any_eq_true.2 ⟨c, hmem, Bool.eq_true_of_not_eq_false hcontrol⟩)
  · intro h cluster hcluster hany
    obtain ⟨c, hmem, hcontrol⟩ := List.any_eq_true.1 hany
    have hc : c ∈ text := by
      rw [← Text.clusters_flatten text]
      exact List.mem_flatten_of_mem hcluster hmem
    rw [h c hc] at hcontrol
    cases hcontrol

theorem totalColumns_eq_of_forall {clusters : List (List Char)}
    (h : ∀ cluster ∈ clusters, cluster.any isControl = true → Text.columns cluster = 1) :
    Text.totalColumns clusters =
      filledCells ((clusters.filter fun cluster => !cluster.any isControl).map fun symbol =>
        { symbol, style := {}, columns := Text.columns symbol }) +
      clusters.countP fun cluster => cluster.any isControl := by
  induction clusters with
  | nil => rfl
  | cons cluster rest ih =>
    obtain ⟨hcluster, hrest⟩ := List.forall_mem_cons.1 h
    rw [Text.totalColumns, ih hrest]
    by_cases hc : cluster.any isControl = true
    · rw [List.filter_cons_of_neg (by simp [hc]),
        List.countP_cons_of_pos (p := (List.any · isControl)) hc, hcluster hc]
      omega
    · rw [List.filter_cons_of_pos (by simp [hc]),
        List.countP_cons_of_neg (p := (List.any · isControl)) hc, List.map_cons, filledCells,
        Nat.add_assoc]

theorem totalColumns_eq (text : List Char) :
    Text.totalColumns (Text.clusters text) = drawnCells text + undrawnClusters text :=
  totalColumns_eq_of_forall fun _ h hc => columns_control h hc

end Screen
end ResidualForm
