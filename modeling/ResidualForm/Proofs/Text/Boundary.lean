import Mathlib.Order.Bounds.Basic
import ResidualForm.Proofs.Text.BreakRules
import ResidualForm.Proofs.Text.Cluster
import ResidualForm.Text.Utf8

/-!
# ResidualForm.Proofs.Text.Boundary

The places where a text breaks, by the segmentation rules, and the clusters between them.

* `breaks_iff_takeClusters` — a text breaks exactly where some number of its clusters end.
* `clusters_append`         — at a break the clusters of both sides are those of the whole.
* `clusters_dropClusters`   — hence what is left behind some clusters has the others.
* `takeClusters_append_of_lt`, `prefix_takeClusters_append` — a text keeps its clusters when more is
  put behind it, and only the last of them may grow.
* `isLeast_boundary`        — hence the place after as many clusters as the text had before is the
  first break that is not inside it.
-/

namespace ResidualForm
namespace Text

/-- A text may be cut between these two parts of it: no rule holds the character after this place to
the text before it. At the start there is no text before it, and at the end no character after. -/
def Breaks (before after : List Char) : Prop :=
  ∀ c ∈ after.head?, ¬ Unbroken (before.map joint) (joint c)

/-- There is a break after the first `n` bytes, hence between two characters. -/
def Boundary (text : List Char) (n : Nat) : Prop :=
  ∃ before after, before ++ after = text ∧ byteLength before = n ∧ Breaks before after

/-- `cluster` stands as one piece between `before` and `after`: the text breaks on both sides of it,
and nowhere inside. -/
structure ClusterBetween (before cluster after : List Char) : Prop where
  ne_nil : cluster ≠ []
  start : Breaks before (cluster ++ after)
  stop : Breaks (before ++ cluster) after
  whole : ∀ a b, a ++ b = cluster → a ≠ [] → b ≠ [] → ¬ Breaks (before ++ a) (b ++ after)

theorem breaks_iff_joins {before after : List Char} :
    Breaks before after ↔
      ∀ c ∈ after.head?, (tailOf (before.map joint)).joins (joint c) = false := by
  simp only [Breaks, ← joins_iff_unbroken, Bool.not_eq_true]

/-- Whether there is a break is told by the text before it and the one character after it. -/
theorem breaks_append_iff {before after : List Char} (h : after ≠ []) (more : List Char) :
    Breaks before (after ++ more) ↔ Breaks before after := by
  cases after with
  | nil => exact absurd rfl h
  | cons c rest => rfl

theorem byteLength_append (a b : List Char) :
    byteLength (a ++ b) = byteLength a + byteLength b := by
  induction a with
  | nil => simp [byteLength]
  | cons c rest ih => rw [List.cons_append, byteLength, byteLength, ih, Nat.add_assoc]

theorem byteLength_pos {text : List Char} (h : text ≠ []) : 0 < byteLength text := by
  cases text with
  | nil => exact absurd rfl h
  | cons c rest => exact Nat.add_pos_left c.utf8Size_pos _

theorem byteLength_le_of_prefix {a b : List Char} (h : a <+: b) : byteLength a ≤ byteLength b := by
  obtain ⟨c, rfl⟩ := h
  rw [byteLength_append]
  exact Nat.le_add_right _ _

/-! ## Clusters -/

theorem control_joins (j : Joint) : Tail.control.joins j = false := by
  cases j <;> rfl

theorem clusters_eq_clustersAfter (text : List Char) :
    clusters text = (clustersAfter .control text).2 := by
  cases text with
  | nil => rfl
  | cons c rest => simp [clusters, clustersAfter, control_joins]

theorem clustersAfter_fst_eq_nil_iff {t : Tail} {text : List Char} :
    (clustersAfter t text).1 = [] ↔ ∀ c ∈ text.head?, t.joins (joint c) = false := by
  cases text with
  | nil => simp [clustersAfter]
  | cons c rest => cases h : t.joins (joint c) <;> simp [clustersAfter, h]

/-- What stands before a break, read on from a tail, is the rest of a cluster and clusters after it. -/
theorem exists_clustersAfter_iff (t : Tail) (before after : List Char) :
    (∃ n, (clustersAfter t (before ++ after)).1 ++
        ((clustersAfter t (before ++ after)).2.take n).flatten = before) ↔
      ∀ c ∈ after.head?, ((before.map joint).foldl Tail.next t).joins (joint c) = false := by
  induction before generalizing t with
  | nil =>
    rw [List.nil_append, List.map_nil, List.foldl_nil, ← clustersAfter_fst_eq_nil_iff]
    constructor
    · rintro ⟨n, h⟩
      exact (List.append_eq_nil_iff.1 h).1
    · intro h
      exact ⟨0, by rw [h]; rfl⟩
  | cons c rest ih =>
    have hstep := ih (t.next (joint c))
    rw [List.map_cons, List.foldl_cons, ← hstep]
    cases hj : t.joins (joint c) with
    | true => simp [clustersAfter, Tail.next, hj]
    | false =>
      -- `c` begins a cluster, which is the first of those that are counted
      simp only [List.cons_append, clustersAfter, Tail.next, hj]
      constructor
      · rintro ⟨n, h⟩
        cases n with
        | zero => simp at h
        | succ n => exact ⟨n, by simpa using h⟩
      · rintro ⟨n, h⟩
        exact ⟨n + 1, by simpa using h⟩

theorem breaks_iff_takeClusters {before after : List Char} :
    Breaks before after ↔ ∃ n, takeClusters n (before ++ after) = before := by
  have hfst : (clustersAfter .control (before ++ after)).1 = [] :=
    clustersAfter_fst_eq_nil_iff.2 fun c _ => control_joins _
  rw [breaks_iff_joins, tailOf, ← exists_clustersAfter_iff, hfst]
  simp only [List.nil_append, takeClusters, clusters_eq_clustersAfter]

theorem breaks_takeClusters (n : Nat) (text : List Char) :
    Breaks (takeClusters n text) (dropClusters n text) :=
  breaks_iff_takeClusters.2 ⟨n, by rw [takeClusters_append_dropClusters]⟩

theorem boundary_iff {text : List Char} {n : Nat} :
    Boundary text n ↔ ∃ k, byteLength (takeClusters k text) = n := by
  constructor
  · rintro ⟨before, after, rfl, rfl, h⟩
    obtain ⟨k, hk⟩ := breaks_iff_takeClusters.1 h
    exact ⟨k, by rw [hk]⟩
  · rintro ⟨k, rfl⟩
    exact ⟨_, _, takeClusters_append_dropClusters k text, rfl, breaks_takeClusters k text⟩

theorem takeClusters_mono {m n : Nat} (h : m ≤ n) (text : List Char) :
    takeClusters m text <+: takeClusters n text := by
  obtain ⟨more, hmore⟩ := List.take_prefix_take_left h (l := clusters text)
  exact ⟨more.flatten, by rw [takeClusters, takeClusters, ← List.flatten_append, hmore]⟩

/-- The clusters are the pieces between the breaks. -/
theorem clusterBetween_of_clusters {text cluster : List Char} {before after : List (List Char)}
    (h : clusters text = before ++ cluster :: after) :
    before.flatten ++ cluster ++ after.flatten = text ∧
      ClusterBetween before.flatten cluster after.flatten := by
  have htext : before.flatten ++ cluster ++ after.flatten = text := by
    have hflatten := clusters_flatten text
    rw [h] at hflatten
    simpa using hflatten
  have hstart : takeClusters before.length text = before.flatten := by
    rw [takeClusters, h, List.take_left]
  have hstop : takeClusters (before.length + 1) text = before.flatten ++ cluster := by
    rw [takeClusters, h, List.take_length_add_append]
    simp
  have hmem : cluster ∈ clusters text := by
    rw [h]
    exact List.mem_append_right _ List.mem_cons_self
  refine ⟨htext, cluster_ne_nil hmem, ?_, ?_, ?_⟩
  · rw [breaks_iff_takeClusters, ← List.append_assoc, htext]
    exact ⟨_, hstart⟩
  · rw [breaks_iff_takeClusters, htext]
    exact ⟨_, hstop⟩
  · rintro a b rfl ha hb hbreak
    rw [breaks_iff_takeClusters, List.append_assoc, ← List.append_assoc a, ← List.append_assoc,
      htext] at hbreak
    obtain ⟨k, hk⟩ := hbreak
    have hpa := List.length_pos_iff.2 ha
    have hpb := List.length_pos_iff.2 hb
    -- as many clusters end before `cluster`, or else all of it is among them
    rcases Nat.lt_or_ge before.length k with hlt | hge
    · have hle := (takeClusters_mono hlt text).length_le
      rw [Nat.succ_eq_add_one, hstop, hk] at hle
      simp only [List.length_append] at hle
      omega
    · have hle := (takeClusters_mono hge text).length_le
      rw [hstart, hk] at hle
      simp only [List.length_append] at hle
      omega

/-- At a break the automaton begins anew. -/
theorem clustersAfter_append {t : Tail} {before after : List Char}
    (h : ∀ c ∈ after.head?, ((before.map joint).foldl Tail.next t).joins (joint c) = false) :
    clustersAfter t (before ++ after) =
      ((clustersAfter t before).1, (clustersAfter t before).2 ++ clusters after) := by
  induction before generalizing t with
  | nil =>
    cases after with
    | nil => rfl
    | cons c rest =>
      have hc : t.joins (joint c) = false := h c rfl
      simp [clustersAfter, clusters, hc]
  | cons c rest ih =>
    have hrest := @ih (t.next (joint c)) h
    cases hj : t.joins (joint c) with
    | true =>
      rw [Tail.next, hj, if_pos rfl] at hrest
      simp [clustersAfter, hj, hrest]
    | false =>
      rw [Tail.next, hj, if_neg Bool.false_ne_true] at hrest
      simp [clustersAfter, hj, hrest]

theorem clusters_append {before after : List Char} (h : Breaks before after) :
    clusters (before ++ after) = clusters before ++ clusters after := by
  rw [clusters_eq_clustersAfter, clustersAfter_append (breaks_iff_joins.1 h),
    ← clusters_eq_clustersAfter]

/-- The clusters behind a break do not depend on what was in front of it. -/
theorem clusters_dropClusters (n : Nat) (text : List Char) :
    clusters (dropClusters n text) = (clusters text).drop n := by
  have hsplit := clusters_append (breaks_takeClusters n text)
  rw [takeClusters_append_dropClusters, clusters_takeClusters] at hsplit
  apply (List.append_right_inj ((clusters text).take n)).1
  rw [← hsplit, List.take_append_drop]

theorem clusterCount_dropClusters (n : Nat) (text : List Char) :
    clusterCount (dropClusters n text) = clusterCount text - n := by
  rw [clusterCount, clusters_dropClusters, List.length_drop, clusterCount]

theorem dropClusters_dropClusters (m n : Nat) (text : List Char) :
    dropClusters m (dropClusters n text) = dropClusters (n + m) text := by
  rw [dropClusters, clusters_dropClusters, List.drop_drop, dropClusters]

/-! ## More text behind a text -/

theorem dropClusters_ne_nil {n : Nat} {text : List Char} (h : n < clusterCount text) :
    dropClusters n text ≠ [] := by
  rw [dropClusters, List.drop_eq_getElem_cons h, List.flatten_cons]
  exact List.append_ne_nil_of_left_ne_nil (cluster_ne_nil (List.getElem_mem h)) _

theorem takeClusters_append_of_lt {n : Nat} {text : List Char} (h : n < clusterCount text)
    (more : List Char) : takeClusters n (text ++ more) = takeClusters n text := by
  have hbreak : Breaks (takeClusters n text) (dropClusters n text ++ more) :=
    (breaks_append_iff (dropClusters_ne_nil h) more).2 (breaks_takeClusters n text)
  have hlen : (clusters (takeClusters n text)).length = n := by
    rw [← clusterCount, clusterCount_takeClusters]
    omega
  calc takeClusters n (text ++ more)
      = takeClusters n (takeClusters n text ++ (dropClusters n text ++ more)) := by
        rw [← List.append_assoc, takeClusters_append_dropClusters]
    _ = takeClusters n text := by
        rw [takeClusters, clusters_append hbreak, List.take_left' hlen, clusters_flatten]

theorem clusterCount_append {before after : List Char} (h : Breaks before after) :
    clusterCount (before ++ after) = clusterCount before + clusterCount after := by
  rw [clusterCount, clusters_append h, List.length_append, clusterCount, clusterCount]

theorem clusterCount_pos {text : List Char} (h : text ≠ []) : 0 < clusterCount text := by
  cases text with
  | nil => exact absurd rfl h
  | cons c rest => exact Nat.succ_pos _

/-- The last cluster can only grow. -/
theorem prefix_takeClusters_append (text more : List Char) :
    text <+: takeClusters (clusterCount text) (text ++ more) := by
  have hsplit := takeClusters_append_dropClusters (clusterCount text) (text ++ more)
  have hcount : clusterCount (takeClusters (clusterCount text) (text ++ more)) =
      clusterCount text := by
    rw [clusterCount_takeClusters]
    exact Nat.min_eq_left (clusterCount_le_append text more)
  rcases List.prefix_or_prefix_of_prefix (List.prefix_append text more) ⟨_, hsplit⟩ with
    h | ⟨rest, hrest⟩
  · exact h
  · -- what the text has beyond these clusters would be one cluster more
    by_cases hr : rest = []
    · rw [hr, List.append_nil] at hrest
      exact ⟨[], by rw [List.append_nil, hrest]⟩
    · have hbreak := breaks_takeClusters (clusterCount text) (text ++ more)
      have hsame : takeClusters (clusterCount text) (text ++ more) ++
            dropClusters (clusterCount text) (text ++ more) =
          takeClusters (clusterCount text) (text ++ more) ++ (rest ++ more) := by
        rw [hsplit, ← List.append_assoc, hrest]
      rw [List.append_cancel_left hsame, breaks_append_iff hr] at hbreak
      have hmore := clusterCount_append hbreak
      rw [hrest, hcount] at hmore
      have hpos := clusterCount_pos hr
      omega

/-- After as many clusters as a text has, and with more behind it, comes the first break that is not
inside the text. -/
theorem isLeast_boundary (text more : List Char) :
    IsLeast { n | Boundary (text ++ more) n ∧ byteLength text ≤ n }
      (byteLength (takeClusters (clusterCount text) (text ++ more))) := by
  constructor
  · exact ⟨boundary_iff.2 ⟨_, rfl⟩, byteLength_le_of_prefix (prefix_takeClusters_append text more)⟩
  · rintro n ⟨hn, hle⟩
    obtain ⟨k, rfl⟩ := boundary_iff.1 hn
    have hk : clusterCount text ≤ k := by
      by_contra hlt
      rw [takeClusters_append_of_lt (Nat.lt_of_not_le hlt)] at hle
      have hdrop := byteLength_pos (dropClusters_ne_nil (Nat.lt_of_not_le hlt))
      have hsplit := congrArg byteLength (takeClusters_append_dropClusters k text)
      rw [byteLength_append] at hsplit
      omega
    exact byteLength_le_of_prefix (takeClusters_mono hk _)

end Text
end ResidualForm
