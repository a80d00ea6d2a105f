import ResidualForm.Text.Cluster

/-!
# ResidualForm.Proofs.Text.Cluster

How a text is cut into clusters, and how the cuts of a part compare with those of the whole.

* `clusters_takeClusters`    — the first clusters of a text are cut on their own as they are in it.
* `clusterCount_le_append`   — text put behind another merges with it at most, and takes no cluster
  away.
* `clusters_of_forall_other` — most characters do not merge.
* `PrintableAscii`           — those of ASCII that print are among them, and the digits among these.
-/

namespace ResidualForm
namespace Text

theorem clustersAfter_ne_nil {tail : Tail} {text cluster : List Char}
    (h : cluster ∈ (clustersAfter tail text).2) : cluster ≠ [] := by
  induction text generalizing tail with
  | nil => simp [clustersAfter] at h
  | cons c rest ih =>
    rw [clustersAfter] at h
    split at h
    · exact ih h
    · rcases List.mem_cons.1 h with rfl | h
      · exact List.cons_ne_nil _ _
      · exact ih h

theorem cluster_ne_nil {text cluster : List Char} (h : cluster ∈ clusters text) : cluster ≠ [] := by
  cases text with
  | nil => simp [clusters] at h
  | cons c rest =>
    rcases List.mem_cons.1 h with rfl | h
    · exact List.cons_ne_nil _ _
    · exact clustersAfter_ne_nil h

/-- What has been cut off is cut in the same way when the text ends there. -/
theorem clustersAfter_take (tail : Tail) (text : List Char) (k : Nat) :
    clustersAfter tail
        ((clustersAfter tail text).1 ++ ((clustersAfter tail text).2.take k).flatten) =
      ((clustersAfter tail text).1, (clustersAfter tail text).2.take k) := by
  induction text generalizing tail k with
  | nil => simp [clustersAfter]
  | cons c rest ih =>
    by_cases hj : tail.joins (joint c) = true
    · simp [clustersAfter, hj, ih]
    · cases k with
      | zero => simp [clustersAfter, hj]
      | succ k => simp [clustersAfter, hj, ih]

theorem clusters_takeClusters (n : Nat) (text : List Char) :
    clusters (takeClusters n text) = (clusters text).take n := by
  cases text with
  | nil => simp [takeClusters, clusters]
  | cons c rest =>
    cases n with
    | zero => simp [takeClusters, clusters]
    | succ n => simp [takeClusters, clusters, clustersAfter_take]

theorem clusterCount_takeClusters (n : Nat) (text : List Char) :
    clusterCount (takeClusters n text) = min n (clusterCount text) := by
  rw [clusterCount, clusters_takeClusters, List.length_take, clusterCount]

theorem takeClusters_takeClusters (m n : Nat) (text : List Char) :
    takeClusters m (takeClusters n text) = takeClusters (min m n) text := by
  rw [takeClusters, clusters_takeClusters, List.take_take, takeClusters]

theorem takeClusters_of_le {n : Nat} {text : List Char} (h : clusterCount text ≤ n) :
    takeClusters n text = text := by
  rw [takeClusters, List.take_of_length_le h, clusters_flatten]

theorem dropClusters_of_le {n : Nat} {text : List Char} (h : clusterCount text ≤ n) :
    dropClusters n text = [] := by
  rw [dropClusters, List.drop_of_length_le h, List.flatten_nil]

theorem clustersAfter_length_le_append (tail : Tail) (text more : List Char) :
    (clustersAfter tail text).2.length ≤ (clustersAfter tail (text ++ more)).2.length := by
  induction text generalizing tail with
  | nil => exact Nat.zero_le _
  | cons c rest ih =>
    by_cases hj : tail.joins (joint c) = true
    · simpa [clustersAfter, hj] using ih _
    · simpa [clustersAfter, hj] using ih _

theorem clusterCount_le_append (text more : List Char) :
    clusterCount text ≤ clusterCount (text ++ more) := by
  cases text with
  | nil => exact Nat.zero_le _
  | cons c rest =>
    exact Nat.succ_le_succ (clustersAfter_length_le_append (joint c).tail rest more)

/-- A text loses something when one of its clusters is taken out. -/
theorem length_without_lt {n : Nat} {text : List Char} (hn : n < clusterCount text) :
    (takeClusters n text ++ dropClusters (n + 1) text).length < text.length := by
  have hne := cluster_ne_nil (List.getElem_mem hn)
  have hdrop : (clusters text).drop n = (clusters text)[n] :: (clusters text).drop (n + 1) :=
    List.drop_eq_getElem_cons hn
  have htext : text =
      takeClusters n text ++ ((clusters text)[n] ++ dropClusters (n + 1) text) := by
    rw [dropClusters, ← List.flatten_cons, ← hdrop]
    exact (takeClusters_append_dropClusters n text).symm
  have hlen := congrArg List.length htext
  have hpos := List.length_pos_iff.2 hne
  simp only [List.length_append] at hlen ⊢
  omega

/-- A character that joins and changes nothing about what joins next does so any number of times. -/
theorem clustersAfter_replicate {tail : Tail} {c : Char} (hjoins : tail.joins (joint c) = true)
    (hpush : tail.push (joint c) = tail) (n : Nat) :
    clustersAfter tail (List.replicate n c) = (List.replicate n c, []) := by
  induction n with
  | zero => rfl
  | succ n ih => rw [List.replicate_succ, clustersAfter, if_pos hjoins, hpush, ih]

/-- Characters that play no part at a joint are clusters of their own. -/
theorem clustersAfter_of_forall_other {text : List Char} (h : ∀ c ∈ text, joint c = .other) :
    clustersAfter .plain text = ([], text.map fun c => [c]) := by
  induction text with
  | nil => rfl
  | cons c rest ih =>
    obtain ⟨hc, hrest⟩ := List.forall_mem_cons.1 h
    rw [clustersAfter, hc]
    simp [Tail.joins, Joint.tail, ih hrest]

theorem clusters_of_forall_other {text : List Char} (h : ∀ c ∈ text, joint c = .other) :
    clusters text = text.map fun c => [c] := by
  cases text with
  | nil => rfl
  | cons c rest =>
    obtain ⟨hc, hrest⟩ := List.forall_mem_cons.1 h
    rw [clusters, hc]
    simp [Joint.tail, clustersAfter_of_forall_other hrest]

theorem clusterCount_of_forall_other {text : List Char} (h : ∀ c ∈ text, joint c = .other) :
    clusterCount text = text.length := by
  rw [clusterCount, clusters_of_forall_other h, List.length_map]

/-- The characters from the space to the tilde. -/
def isPrintableAscii (c : Char) : Bool :=
  0x20 ≤ c.toNat && c.toNat ≤ 0x7E

theorem joint_of_isPrintableAscii {c : Char} (hc : isPrintableAscii c = true) :
    joint c = .other := by
  have hval : 0x20 ≤ c.toNat ∧ c.toNat ≤ 0x7E := by simpa [isPrintableAscii] using hc
  have hr : c ≠ '\r' := by rintro rfl; exact absurd hc (by decide)
  have hn : c ≠ '\n' := by rintro rfl; exact absurd hc (by decide)
  have h1 : ¬ c.toNat < 0x20 := by omega
  have h2 : c.toNat < 0x7F := by omega
  have h3 : c.toNat < 0x300 := by omega
  simp [joint, lowJoint, h1, h2, h3, hr, hn]

theorem isPrintableAscii_of_isDigit {c : Char} (hc : c.isDigit = true) :
    isPrintableAscii c = true := by
  have hval : 48 ≤ c.toNat ∧ c.toNat ≤ 57 := Char.isDigit_iff_toNat.1 hc
  simp [isPrintableAscii]
  omega

theorem clusterCount_of_forall_digit {text : List Char} (h : ∀ c ∈ text, c.isDigit = true) :
    clusterCount text = text.length :=
  clusterCount_of_forall_other fun c hc =>
    joint_of_isPrintableAscii (isPrintableAscii_of_isDigit (h c hc))

/-- A text of printable ASCII. -/
def PrintableAscii (text : List Char) : Prop :=
  ∀ c ∈ text, isPrintableAscii c = true

-- decided along the text, not over all the characters that there are
instance (text : List Char) : Decidable (PrintableAscii text) :=
  List.decidableBAll _ text

namespace PrintableAscii

variable {text more : List Char}

theorem nil : PrintableAscii [] :=
  fun _ hc => absurd hc List.not_mem_nil

theorem append (h : PrintableAscii text) (h' : PrintableAscii more) : PrintableAscii (text ++ more) :=
  fun c hc => (List.mem_append.1 hc).elim (h c) (h' c)

theorem of_subset (h : PrintableAscii text) (hs : more ⊆ text) : PrintableAscii more :=
  fun c hc => h c (hs hc)

theorem joint_eq (h : PrintableAscii text) : ∀ c ∈ text, joint c = .other :=
  fun c hc => joint_of_isPrintableAscii (h c hc)

theorem clusterCount_eq (h : PrintableAscii text) : clusterCount text = text.length :=
  clusterCount_of_forall_other h.joint_eq

theorem takeClusters_eq (h : PrintableAscii text) (n : Nat) : takeClusters n text = text.take n := by
  rw [takeClusters, clusters_of_forall_other h.joint_eq, ← List.map_take]
  exact List.flatMap_singleton' _

theorem dropClusters_eq (h : PrintableAscii text) (n : Nat) : dropClusters n text = text.drop n := by
  rw [dropClusters, clusters_of_forall_other h.joint_eq, ← List.map_drop]
  exact List.flatMap_singleton' _

end PrintableAscii

end Text
end ResidualForm
