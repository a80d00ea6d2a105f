import ResidualForm.Proofs.Screen.Cursor
import ResidualForm.Proofs.Session.Typing

/-!
# ResidualForm.Proofs.Screen.Overflow

The columns before the cursor are a 16-bit number, and nothing bounds the columns of a field: its limit
counts clusters, and a syllable may begin with any number of consonants, each of two columns.

* `run_typed_initials`        — there is room for a letter and a syllable of any number of consonants.
* `exists_run_typed`          — what is typed into a new session is typed into its first field.
* `cursor_typedInitials_left` — where the terminal cursor stands between the letter and the syllable, and
  where behind both.
* `cursor_right_goes_left`    — hence a move to the right can take it to the left.
-/

namespace ResidualForm

/-! ## Typing a long syllable -/

/-- A letter of two columns, and a syllable of so many consonants. -/
def initials (n : Nat) : List Char :=
  '漢' :: List.replicate n 'ᄀ'

theorem clusters_initials (n : Nat) :
    Text.clusters (initials (n + 1)) = [['漢'], List.replicate (n + 1) 'ᄀ'] := by
  have hletter : (Text.joint '漢').tail = .plain := by decide +kernel
  have hinitial : Text.joint 'ᄀ' = .leading := by decide +kernel
  have hrest : Text.clustersAfter .leading (List.replicate n 'ᄀ') = (List.replicate n 'ᄀ', []) :=
    Text.clustersAfter_replicate (by rw [hinitial]; rfl) (by rw [hinitial]; rfl) n
  rw [initials, Text.clusters, hletter, List.replicate_succ, Text.clustersAfter, hinitial]
  simp [Text.Tail.joins, Text.Joint.tail, hrest]

theorem clusterCount_initials_le (n : Nat) : Text.clusterCount (initials n) ≤ 2 := by
  cases n with
  | zero => decide +kernel
  | succ n => rw [Text.clusterCount, clusters_initials]; rfl

theorem columns_replicate_initial (n : Nat) : Text.columns (List.replicate n 'ᄀ') = 2 * n := by
  have hcolumns : Text.characterColumns 'ᄀ' = 2 := by decide +kernel
  have hahead : Text.aheadOf 'ᄀ' = .plain := by decide +kernel
  have hextent : (List.replicate n 'ᄀ').foldr Text.Extent.precede {} = { columns := 2 * n } := by
    induction n with
    | zero => rfl
    | succ n ih =>
      rw [List.replicate_succ, List.foldr_cons, ih, Text.Extent.precede]
      simp [Text.merge?, hcolumns, hahead, Nat.mul_succ]
  rw [Text.columns, hextent]

namespace ResidualField

theorem run_typed_initials {limit : Nat} (hl : 3 ≤ limit) (n : Nat) :
    (holding limit []).run (LineAct.typed (initials n)) = holding limit (initials n) := by
  induction n with
  | zero =>
    show ((holding limit []).edit (.insert '漢')).getD (holding limit []) = _
    rw [insert_holding, if_pos]
    · rfl
    · show 0 < limit
      omega
  | succ n ih =>
    have hinitials : initials (n + 1) = initials n ++ ['ᄀ'] := by
      rw [initials, List.replicate_succ', ← List.cons_append, initials]
    have hcount := clusterCount_initials_le n
    rw [LineAct.typed, run] at ih
    rw [hinitials, LineAct.typed, List.map_append, run, List.foldl_append, ih]
    show ((holding limit (initials n)).edit (.insert 'ᄀ')).getD (holding limit (initials n)) = _
    rw [insert_holding, if_pos (by omega)]

end ResidualField

namespace Session

/-- What is typed into a new session. -/
theorem exists_run_typed (service : Service) (text : List Char) :
    ∃ x : Exchange, plain.run service (text.map Act.key) =
      { plain with
        form :=
          { plain.form with
            zero := (ResidualField.holding greatestResidualLength []).run (LineAct.typed text) }
        exchange := x } := by
  have htyped : (text.map Edit.insert).map LineAct.edit = LineAct.typed text := List.map_map
  have hrest := (entered_typed service plain text).rest
  have hfocus : plain.focus = .zero := rfl
  rw [Form.run_eq, hfocus] at hrest
  simp only [Form.flatMap_on_edit, htyped] at hrest
  exact ⟨_, hrest⟩

end Session

namespace Screen

open Session

variable (service : Service) (n width height : Nat)

/-- A new session into which a letter and a syllable have been typed. -/
def typedInitials : Session :=
  plain.run service ((initials (n + 1)).map Act.key)

theorem exists_typedInitials :
    ∃ x : Exchange, typedInitials service n =
      { plain with
        form :=
          { plain.form with
            zero := ResidualField.holding greatestResidualLength (initials (n + 1)) }
        exchange := x } := by
  obtain ⟨x, hx⟩ := exists_run_typed service (initials (n + 1))
  rw [ResidualField.run_typed_initials (by decide)] at hx
  exact ⟨x, hx⟩

theorem clusterCount_initials : Text.clusterCount (initials (n + 1)) = 2 := by
  rw [Text.clusterCount, clusters_initials]
  rfl

theorem text_typedInitials :
    (typedInitials service n).form.text (typedInitials service n).focus = initials (n + 1) := by
  obtain ⟨x, hx⟩ := exists_typedInitials service n
  rw [hx]
  rfl

theorem cursor_typedInitials :
    (typedInitials service n).form.cursor (typedInitials service n).focus = 2 := by
  obtain ⟨x, hx⟩ := exists_typedInitials service n
  rw [hx]
  show (Draft.ofText (initials (n + 1))).cursor = 2
  rw [Draft.ofText, clusterCount_initials]

/-- What is counted before the syllable, and behind it. -/
theorem columns_typedInitials :
    let s := (typedInitials service n).move .left
    columnsBeforeCursor s.form s.focus = 2 ∧
      columnsBeforeCursor (s.move .right).form (s.move .right).focus = (2 * n + 4) % 0x10000 := by
  have htext := text_typedInitials service n
  have hcursor := cursor_typedInitials service n
  have hletter : Text.columns ['漢'] = 2 := by decide +kernel
  simp only [Session.move, columnsBeforeCursor, Form.text_move, Form.cursor_move_right,
    Form.cursor_move_left, htext, hcursor, clusterCount_initials, clusters_initials]
  constructor
  · simp [Text.totalColumns, hletter]
  · simp only [Nat.reduceSub, Nat.reduceAdd, Nat.min_self, List.take_succ_cons, List.take_zero,
      Text.totalColumns, hletter, columns_replicate_initial]
    rw [show 2 + (2 * (n + 1) + 0) = 2 * n + 4 by omega]

theorem columns_fieldStatus {f : Form} (hsize : f.zero.size = 2)
    (hlimit : f.settings.residualLimit = 16) :
    Text.columns (fieldStatus (Signs.ofOptions {}) f .zero).toList = 8 := by
  rw [fieldStatus]
  simp only [hsize, hlimit]
  cases f.indicator .zero <;> decide +kernel

theorem focusTextArea_typedInitials (hwidth : 18 ≤ width) :
    (focusTextArea (typedInitials service n) width height).x = 2 ∧
      (focusTextArea (typedInitials service n) width height).width = width - 12 := by
  obtain ⟨x, hx⟩ := exists_typedInitials service n
  have hstatus : Text.columns (fieldStatus (Signs.ofOptions (typedInitials service n).options)
      (typedInitials service n).form (typedInitials service n).focus).toList = 8 := by
    rw [hx]
    exact columns_fieldStatus (clusterCount_initials n) rfl
  have hfocus : (typedInitials service n).focus = .zero := by
    rw [hx]
    rfl
  rw [focusTextArea, fieldTextArea, statusColumns, hstatus, hfocus]
  constructor
  · rfl
  · show width - 2 - 2 - min 8 (width - 2 - 2 - 1) = width - 12
    omega

theorem columns_focusPrompt_typedInitials :
    Text.columns (focusPrompt (typedInitials service n)) = 3 := by
  have hprompt : Text.columns (fieldPrompt (Signs.ofOptions {}) true).toList = 3 := by decide +kernel
  obtain ⟨x, hx⟩ := exists_typedInitials service n
  rw [hx]
  exact hprompt

/-- The terminal cursor between the letter and the syllable, and behind both. -/
theorem cursor_typedInitials_left (hwidth : 18 ≤ width) :
    let s := (typedInitials service n).move .left
    (draw s width height).cursor.1 = 7 ∧
      (draw (s.move .right) width height).cursor.1 =
        min (5 + (2 * n + 4) % 0x10000) (width - 11) := by
  obtain ⟨hletter, hsyllable⟩ := columns_typedInitials service n
  obtain ⟨hx, hwide⟩ := focusTextArea_typedInitials service n width height hwidth
  simp only [cursor_draw, hletter, hsyllable, focusTextArea_move, focusPrompt_move,
    columns_focusPrompt_typedInitials, hx, hwide]
  omega

/-- Nothing keeps the count below `2 ^ 16`: whatever the service does, there are keys to type after
which a move to the right takes the terminal cursor to the left. -/
theorem cursor_right_goes_left (hwidth : 18 ≤ width) :
    ∃ acts, let s := plain.run service acts
      (draw s width height).cursor.1 = 7 ∧ (draw (s.move .right) width height).cursor.1 = 5 := by
  obtain ⟨n, hn⟩ : ∃ n, (2 * n + 4) % 0x10000 = 0 := ⟨0x7FFE, rfl⟩
  have hrun : plain.run service ((initials (n + 1)).map Act.key ++ [.move .left]) =
      (typedInitials service n).move .left := by
    rw [run, List.foldl_append]
    rfl
  have hcursor := cursor_typedInitials_left service n width height hwidth
  rw [← hrun, hn] at hcursor
  refine ⟨_, hcursor.1, hcursor.2.trans ?_⟩
  omega

end Screen
end ResidualForm
