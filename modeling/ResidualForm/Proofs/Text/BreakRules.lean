import Mathlib.Data.List.Induction
import ResidualForm.Text.Cluster

/-!
# ResidualForm.Proofs.Text.BreakRules

The segmentation rules of Unicode for extended grapheme clusters, and the automaton that cuts texts
by them. The rules (GB3 to GB999) look back over the text as far as they like; the automaton knows
only the tail of what it has read.

* `Unbroken` — the rules, as they are written down: what keeps the next character with the text
  before it. Everywhere else there is a break.
* `tailOf_eq_pictograph_iff`, `tailOf_eq_linkedConsonant_iff`, `tailOf_eq_flag_iff` — what a tail
  tells of the text, in the cases where more than its last character counts.
* `joins_iff_unbroken` — the automaton joins by the rules, and by nothing else.
-/

namespace ResidualForm
namespace Text

namespace Joint

/-- Line ends and control characters, which nothing is joined to except LF to CR. -/
def isControl : Joint → Bool
  | .cr => true
  | .lf => true
  | .control => true
  | _ => false

def isExtend : Joint → Bool
  | .extend => true
  | .linker => true
  | .nonJoiner => true
  | _ => false

/-- The signs that may stand between the consonants of a conjunct. -/
def inConjunct : Joint → Bool
  | .extend => true
  | .linker => true
  | .joiner => true
  | _ => false

/-- Whether the second continues the Hangul syllable that the first belongs to. -/
def syllable : Joint → Joint → Bool
  | .leading, .leading => true
  | .leading, .vowel => true
  | .leading, .openSyllable => true
  | .leading, .closedSyllable => true
  | .vowel, .vowel => true
  | .vowel, .trailing => true
  | .openSyllable, .vowel => true
  | .openSyllable, .trailing => true
  | .trailing, .trailing => true
  | .closedSyllable, .trailing => true
  | _, _ => false

end Joint

/-- What joins a character to the text before it, where neither side is a control. -/
inductive Bond : List Joint → Joint → Prop where
  -- GB6, GB7, GB8
  | syllable {before : List Joint} {last next : Joint} :
      before.getLast? = some last → last.syllable next = true → Bond before next
  -- GB9
  | extend {before : List Joint} {next : Joint} : next.isExtend = true → Bond before next
  -- GB9
  | joiner {before : List Joint} : Bond before .joiner
  -- GB9a
  | spacing {before : List Joint} : Bond before .spacing
  -- GB9b
  | prepended {before : List Joint} {next : Joint} :
      before.getLast? = some .prepended → Bond before next
  -- GB9c
  | conjunct {before marks : List Joint} :
      (∀ j ∈ marks, j.inConjunct = true) → .linker ∈ marks →
      Bond (before ++ .consonant :: marks) .consonant
  -- GB11
  | pictograph {before marks : List Joint} :
      (∀ j ∈ marks, j.isExtend = true) →
      Bond (before ++ .pictograph :: marks ++ [.joiner]) .pictograph
  -- GB12, GB13
  | flag {before : List Joint} {n : Nat} :
      before.getLast? ≠ some .flag →
      Bond (before ++ List.replicate (2 * n + 1) .flag) .flag

/-- There is no break between a text and the next character. -/
inductive Unbroken : List Joint → Joint → Prop where
  -- GB3
  | lineEnd {before : List Joint} : before.getLast? = some .cr → Unbroken before .lf
  -- GB4 and GB5 leave these pairs to the rules after them.
  | bond {before : List Joint} {last next : Joint} :
      before.getLast? = some last → last.isControl = false → next.isControl = false →
      Bond before next → Unbroken before next

/-- The tail after the next character, whether it joins or not. -/
def Tail.next (t : Tail) (j : Joint) : Tail :=
  if t.joins j then t.push j else j.tail

/-- The tail of a text. Nothing joins a control, so a text begins as if one stood before it. -/
def tailOf (before : List Joint) : Tail :=
  before.foldl Tail.next .control

@[simp] theorem tailOf_concat (before : List Joint) (j : Joint) :
    tailOf (before ++ [j]) = (tailOf before).next j := by
  rw [tailOf, List.foldl_append]
  rfl

/-! ## Tails that tell the last character -/

theorem tailOf_last {P : Tail → Prop} {p : Joint → Prop} (hc : ¬ P .control)
    (hnext : ∀ (t : Tail) (j : Joint), P (t.next j) ↔ p j) (before : List Joint) :
    P (tailOf before) ↔ ∃ last, before.getLast? = some last ∧ p last := by
  induction before using List.reverseRecOn with
  | nil => simpa [tailOf] using hc
  | append_singleton before j ih => simp [hnext]

theorem tailOf_eq_cr_iff (before : List Joint) :
    tailOf before = .cr ↔ before.getLast? = some .cr := by
  rw [tailOf_last (P := (· = .cr)) (p := (· = .cr)) (by decide)]
  · simp
  · intro t j
    cases t <;> cases j <;> decide

theorem tailOf_eq_prepended_iff (before : List Joint) :
    tailOf before = .prepended ↔ before.getLast? = some .prepended := by
  rw [tailOf_last (P := (· = .prepended)) (p := (· = .prepended)) (by decide)]
  · simp
  · intro t j
    cases t <;> cases j <;> decide

theorem tailOf_not_control_iff (before : List Joint) :
    ¬ (tailOf before = .control ∨ tailOf before = .cr) ↔
      ∃ last, before.getLast? = some last ∧ last.isControl = false := by
  apply tailOf_last (P := fun t => ¬ (t = .control ∨ t = .cr))
  · decide
  · intro t j
    cases t <;> cases j <;> decide

def Tail.syllable : Tail → Joint → Bool
  | .leading, j => Joint.leading.syllable j
  | .vowel, j => Joint.vowel.syllable j
  | .trailing, j => Joint.trailing.syllable j
  | _, _ => false

theorem syllable_next (t : Tail) (j : Joint) : (t.next j).syllable = j.tail.syllable := by
  cases t <;> cases j <;> rfl

theorem syllable_tail (last next : Joint) : last.tail.syllable next = last.syllable next := by
  cases last <;> cases next <;> rfl

theorem tailOf_syllable_iff (before : List Joint) (next : Joint) :
    (tailOf before).syllable next = true ↔
      ∃ last, before.getLast? = some last ∧ last.syllable next = true := by
  apply tailOf_last (P := fun t => t.syllable next = true)
  · exact Bool.false_ne_true
  · intro t j
    rw [syllable_next, syllable_tail]

/-! ## Tails that look further back -/

/-- A tail that one character begins and others keep going. -/
theorem tailOf_run {P : Tail → Prop} (first : Joint) (more : Joint → Bool) (hc : ¬ P .control)
    (hnext : ∀ (t : Tail) (j : Joint), P (t.next j) ↔ j = first ∨ P t ∧ more j = true)
    (before : List Joint) :
    P (tailOf before) ↔
      ∃ u marks, (∀ j ∈ marks, more j = true) ∧ before = u ++ first :: marks := by
  constructor
  · intro h
    induction before using List.reverseRecOn with
    | nil => exact absurd h hc
    | append_singleton before j ih =>
      rw [tailOf_concat, hnext] at h
      rcases h with rfl | ⟨ht, hj⟩
      · exact ⟨before, [], by simp, rfl⟩
      · obtain ⟨u, marks, hm, rfl⟩ := ih ht
        exact ⟨u, marks ++ [j], by simpa [or_imp, forall_and] using ⟨hm, hj⟩, by simp⟩
  · rintro ⟨u, marks, hm, rfl⟩
    induction marks using List.reverseRecOn with
    | nil => exact (tailOf_concat u first).symm ▸ (hnext _ _).2 (.inl rfl)
    | append_singleton marks j ih =>
      rw [← List.cons_append, ← List.append_assoc, tailOf_concat, hnext]
      exact .inr ⟨ih fun j hj => hm j (by simp [hj]), hm j (by simp)⟩

theorem tailOf_eq_pictograph_iff (before : List Joint) :
    tailOf before = .pictograph ↔
      ∃ u marks, (∀ j ∈ marks, j.isExtend = true) ∧ before = u ++ .pictograph :: marks := by
  apply tailOf_run (P := (· = .pictograph)) .pictograph Joint.isExtend
  · decide
  · intro t j
    cases t <;> cases j <;> decide

theorem next_eq_joinedPictograph_iff (t : Tail) (j : Joint) :
    t.next j = .joinedPictograph ↔ t = .pictograph ∧ j = .joiner := by
  cases t <;> cases j <;> decide

theorem tailOf_eq_joinedPictograph_iff (before : List Joint) :
    tailOf before = .joinedPictograph ↔
      ∃ u marks, (∀ j ∈ marks, j.isExtend = true) ∧
        before = u ++ .pictograph :: marks ++ [.joiner] := by
  induction before using List.reverseRecOn with
  | nil => simp [tailOf]
  | append_singleton before j ih =>
    rw [tailOf_concat, next_eq_joinedPictograph_iff, tailOf_eq_pictograph_iff]
    constructor
    · rintro ⟨⟨u, marks, hm, rfl⟩, rfl⟩
      exact ⟨u, marks, hm, rfl⟩
    · rintro ⟨u, marks, hm, h⟩
      obtain ⟨rfl, hj⟩ := List.append_inj' h rfl
      exact ⟨⟨u, marks, hm, rfl⟩, List.head_eq_of_cons_eq hj⟩

/-- A consonant and the signs after it: the tail tells whether one of them links. -/
theorem tailOf_conjunct (u : List Joint) {marks : List Joint}
    (hm : ∀ j ∈ marks, j.inConjunct = true) :
    tailOf (u ++ .consonant :: marks) =
      if .linker ∈ marks then .linkedConsonant else .consonant := by
  induction marks using List.reverseRecOn with
  | nil =>
    rw [tailOf_concat]
    cases tailOf u <;> rfl
  | append_singleton marks j ih =>
    have hmarks := ih fun j hj => hm j (by simp [hj])
    have hj : j.inConjunct = true := hm j (by simp)
    rw [← List.cons_append, ← List.append_assoc, tailOf_concat, hmarks]
    by_cases hl : Joint.linker ∈ marks
    · simp only [hl, if_true, List.mem_append, true_or]
      cases j <;> simp_all [Joint.inConjunct, Tail.next, Tail.joins, Tail.push]
    · simp only [hl, if_false, List.mem_append, false_or, List.mem_singleton]
      cases j <;> simp_all [Joint.inConjunct, Tail.next, Tail.joins, Tail.push]

theorem tailOf_eq_linkedConsonant_iff (before : List Joint) :
    tailOf before = .linkedConsonant ↔
      ∃ u marks, (∀ j ∈ marks, j.inConjunct = true) ∧ .linker ∈ marks ∧
        before = u ++ .consonant :: marks := by
  constructor
  · intro h
    have hnext : ∀ (t : Tail) (j : Joint),
        t.next j = .consonant ∨ t.next j = .linkedConsonant ↔
          j = .consonant ∨ (t = .consonant ∨ t = .linkedConsonant) ∧ j.inConjunct = true := by
      intro t j
      cases t <;> cases j <;> decide
    have hrun := tailOf_run (P := fun t => t = .consonant ∨ t = .linkedConsonant) .consonant
      Joint.inConjunct (by decide) hnext before
    obtain ⟨u, marks, hm, rfl⟩ := hrun.1 (.inr h)
    refine ⟨u, marks, hm, ?_, rfl⟩
    rw [tailOf_conjunct u hm] at h
    by_contra hl
    rw [if_neg hl] at h
    cases h
  · rintro ⟨u, marks, hm, hl, rfl⟩
    rw [tailOf_conjunct u hm, if_pos hl]

theorem next_eq_flag_iff (t : Tail) (j : Joint) : t.next j = .flag ↔ j = .flag ∧ t ≠ .flag := by
  cases t <;> cases j <;> decide

theorem last_of_tailOf_eq_flag {before : List Joint} (h : tailOf before = .flag) :
    before.getLast? = some .flag := by
  induction before using List.reverseRecOn with
  | nil => simp [tailOf] at h
  | append_singleton before j ih =>
    rw [tailOf_concat, next_eq_flag_iff] at h
    simp [h.1]

/-- Of the flags at the end of a text, each second one closes a pair. -/
theorem tailOf_flags {u : List Joint} (hu : u.getLast? ≠ some .flag) (n : Nat) :
    tailOf (u ++ List.replicate n .flag) = .flag ↔ n % 2 = 1 := by
  induction n with
  | zero => simpa using fun h => hu (last_of_tailOf_eq_flag h)
  | succ n ih =>
    rw [List.replicate_succ', ← List.append_assoc, tailOf_concat, next_eq_flag_iff, ne_eq, ih]
    simp
    omega

theorem exists_flags (before : List Joint) :
    ∃ u n, u.getLast? ≠ some Joint.flag ∧ before = u ++ List.replicate n .flag := by
  induction before using List.reverseRecOn with
  | nil => exact ⟨[], 0, by simp, rfl⟩
  | append_singleton before j ih =>
    by_cases hj : j = .flag
    · obtain ⟨u, n, hu, rfl⟩ := ih
      exact ⟨u, n + 1, hu, by rw [List.replicate_succ', List.append_assoc, hj]⟩
    · exact ⟨before ++ [j], 0, by simpa using hj, by simp⟩

theorem tailOf_eq_flag_iff (before : List Joint) :
    tailOf before = .flag ↔
      ∃ u n, u.getLast? ≠ some Joint.flag ∧ before = u ++ List.replicate (2 * n + 1) .flag := by
  constructor
  · intro h
    obtain ⟨u, n, hu, rfl⟩ := exists_flags before
    have hn := (tailOf_flags hu n).1 h
    exact ⟨u, n / 2, hu, by rw [show 2 * (n / 2) + 1 = n by omega]⟩
  · rintro ⟨u, n, hu, rfl⟩
    exact (tailOf_flags hu _).2 (by omega)

/-! ## The automaton and the rules -/

theorem joins_iff (t : Tail) (j : Joint) :
    t.joins j = true ↔ t = .cr ∧ j = .lf ∨
      ¬ (t = .control ∨ t = .cr) ∧ j.isControl = false ∧
        (t.syllable j = true ∨ j.isExtend = true ∨ j = .joiner ∨ j = .spacing ∨ t = .prepended ∨
          (t = .linkedConsonant ∧ j = .consonant) ∨ (t = .joinedPictograph ∧ j = .pictograph) ∨
          (t = .flag ∧ j = .flag)) := by
  cases t <;> cases j <;> decide

/-- What the tail remembers is enough: a character joins where a rule says so. -/
theorem joins_iff_unbroken (before : List Joint) (next : Joint) :
    (tailOf before).joins next = true ↔ Unbroken before next := by
  rw [joins_iff]
  constructor
  · rintro (⟨hcr, rfl⟩ | ⟨hcontrol, hnext, h⟩)
    · exact .lineEnd ((tailOf_eq_cr_iff before).1 hcr)
    · obtain ⟨last, hlast, hl⟩ := (tailOf_not_control_iff before).1 hcontrol
      refine .bond hlast hl hnext ?_
      rcases h with h | h | rfl | rfl | h | ⟨h, rfl⟩ | ⟨h, rfl⟩ | ⟨h, rfl⟩
      · obtain ⟨last, hlast, hl⟩ := (tailOf_syllable_iff before next).1 h
        exact .syllable hlast hl
      · exact .extend h
      · exact .joiner
      · exact .spacing
      · exact .prepended ((tailOf_eq_prepended_iff before).1 h)
      · obtain ⟨u, marks, hm, hl, rfl⟩ := (tailOf_eq_linkedConsonant_iff before).1 h
        exact .conjunct hm hl
      · obtain ⟨u, marks, hm, rfl⟩ := (tailOf_eq_joinedPictograph_iff before).1 h
        exact .pictograph hm
      · obtain ⟨u, n, hu, rfl⟩ := (tailOf_eq_flag_iff before).1 h
        exact .flag hu
  · intro h
    cases h with
    | lineEnd hlast => exact .inl ⟨(tailOf_eq_cr_iff before).2 hlast, rfl⟩
    | bond hlast hl hnext hbond =>
      refine .inr ⟨(tailOf_not_control_iff before).2 ⟨_, hlast, hl⟩, hnext, ?_⟩
      cases hbond with
      | syllable hlast hl => exact .inl ((tailOf_syllable_iff before next).2 ⟨_, hlast, hl⟩)
      | extend h => exact .inr (.inl h)
      | joiner => exact .inr (.inr (.inl rfl))
      | spacing => exact .inr (.inr (.inr (.inl rfl)))
      | prepended h => simp [(tailOf_eq_prepended_iff before).2 h]
      | @conjunct u marks hm hl =>
        rw [(tailOf_eq_linkedConsonant_iff _).2 ⟨u, marks, hm, hl, rfl⟩]
        decide
      | @pictograph u marks hm =>
        rw [(tailOf_eq_joinedPictograph_iff _).2 ⟨u, marks, hm, rfl⟩]
        decide
      | @flag u n hu =>
        rw [(tailOf_eq_flag_iff _).2 ⟨u, n, hu, rfl⟩]
        decide

instance (before : List Joint) (next : Joint) : Decidable (Unbroken before next) :=
  decidable_of_iff _ (joins_iff_unbroken before next)

example : Unbroken [.flag, .flag, .flag] .flag ∧ ¬ Unbroken [.flag, .flag] .flag := by decide

end Text
end ResidualForm
