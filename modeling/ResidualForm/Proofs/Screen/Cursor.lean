import ResidualForm.Proofs.Form
import ResidualForm.Proofs.Screen.Line
import ResidualForm.Proofs.Session.Run
import ResidualForm.Screen.Frame

/-!
# ResidualForm.Proofs.Screen.Cursor

Where the terminal cursor stands in the field that is in focus.

* `columnsBeforeCursor_eq` — the columns that are counted up to the cursor: the cells that are filled,
  one more for each cluster that is not drawn, and all that modulo `2 ^ 16`.
* `putLine_fieldLine`      — the cluster behind the cursor is drawn as many cells after the prompt as
  the text before the cursor fills.
* `cursor_beside_text`     — so the cursor stands there, unless a control character is counted or the
  count is too great.
-/

namespace ResidualForm
namespace Screen

/-! ## The size of the canvas -/

namespace Canvas

theorem area_foldl {α : Type} {f : Canvas → α → Canvas} (h : ∀ c a, (f c a).area = c.area)
    (c : Canvas) (l : List α) : (l.foldl f c).area = c.area := by
  induction l generalizing c with
  | nil => rfl
  | cons a rest ih => rw [List.foldl_cons, ih, h]

@[simp] theorem area_modify (c : Canvas) (x y : Nat) (f : Cell → Cell) :
    (c.modify x y f).area = c.area := by
  rw [modify]
  split <;> rfl

@[simp] theorem area_put (c : Canvas) (x y : Nat) (symbol : List Char) (style : Style) :
    (c.put x y symbol style).area = c.area :=
  c.area_modify x y _

@[simp] theorem area_fill (c : Canvas) (a : Area) (style : Style) :
    (c.fill a style).area = c.area :=
  area_foldl (fun c _ => area_foldl (fun c _ => c.area_modify _ _ _) c _) c _

@[simp] theorem area_putGlyphs (c : Canvas) (x y : Nat) (glyphs : List Glyph) :
    (c.putGlyphs x y glyphs).area = c.area := by
  induction glyphs generalizing c x with
  | nil => rfl
  | cons g rest ih =>
    rw [putGlyphs]
    split
    · exact ih c x
    · rw [ih, area_put]

@[simp] theorem area_putLine (c : Canvas) (a : Area) (line : List Span) :
    (c.putLine a line).area = c.area := by
  rw [putLine]
  split
  · rfl
  · exact c.area_putGlyphs _ _ _

@[simp] theorem area_putBorder (c : Canvas) (a : Area) (style : Style) :
    (c.putBorder a style).area = c.area := by
  rw [putBorder]
  split
  · rfl
  · simp only [area_put]
    rw [area_foldl (by simp), area_foldl (by simp)]

end Canvas

@[simp] theorem area_putPanel (c : Canvas) (a : Area) (palette : Palette) (border : Color)
    (title : Span) : (putPanel c a palette border title).area = c.area := by
  simp [putPanel]

@[simp] theorem area_putField (c : Canvas) (s : Session) (palette : Palette) (signs : Signs)
    (page : Page) (slot : Slot) : (putField c s palette signs page slot).area = c.area := by
  simp [putField]

/-- The picture is as large as the canvas it is drawn on. -/
theorem area_draw (s : Session) (width height : Nat) :
    (draw s width height).canvas.area = (Canvas.blank width height).area := by
  rw [draw]
  simp only [Canvas.area_putLine, putResult, area_putPanel]
  rw [Canvas.area_foldl (by simp), Canvas.area_putLine, Canvas.area_fill]

/-! ## The cursor -/

/-- The part of the picture that the text of the focused field has for itself. -/
def focusTextArea (s : Session) (width height : Nat) : Area :=
  fieldTextArea ((Page.ofScreen (Canvas.blank width height).area).panel s.focus)
    (fieldStatus (Signs.ofOptions s.options) s.form s.focus)

def focusPrompt (s : Session) : List Char :=
  (fieldPrompt (Signs.ofOptions s.options) true).toList

/-- The text of the focused field in front of the cursor. -/
def textBeforeCursor (s : Session) : List Char :=
  Text.takeClusters (s.form.cursor s.focus) (s.form.text s.focus)

def textAfterCursor (s : Session) : List Char :=
  Text.dropClusters (s.form.cursor s.focus) (s.form.text s.focus)

variable (s : Session) (width height : Nat)

theorem cursor_draw :
    (draw s width height).cursor =
      (min ((focusTextArea s width height).x + Text.columns (focusPrompt s) +
          columnsBeforeCursor s.form s.focus)
        ((focusTextArea s width height).x + ((focusTextArea s width height).width - 1)),
      (focusTextArea s width height).y) := by
  show cursorPlace s (draw s width height).canvas.area = _
  rw [area_draw, cursorPlace, fieldCursor, focusTextArea, focusPrompt]

theorem columnsBeforeCursor_eq :
    columnsBeforeCursor s.form s.focus =
      (drawnCells (textBeforeCursor s) + undrawnClusters (textBeforeCursor s)) % 0x10000 := by
  rw [columnsBeforeCursor, ← Text.clusters_takeClusters, totalColumns_eq, textBeforeCursor]

/-- The prompt is drawn as a whole. -/
theorem drawnCells_focusPrompt : drawnCells (focusPrompt s) = Text.columns (focusPrompt s) := by
  rw [focusPrompt, Signs.ofOptions]
  cases s.options.asciiOnly <;> decide +kernel

/-- Where the text before the cursor has room, the text behind it begins as many cells after the
prompt as the text before it fills. -/
theorem putLine_fieldLine (c : Canvas) (area : Area) (palette : Palette)
    (hheight : 0 < area.height)
    (hroom : Text.columns (focusPrompt s) + drawnCells (textBeforeCursor s) ≤ area.width) :
    let signs := Signs.ofOptions s.options
    let prompt := Span.ofString (fieldPrompt signs true) { fg := some palette.primary }
    let style : Style := { fg := some palette.primaryText }
    let used := Text.columns (focusPrompt s) + drawnCells (textBeforeCursor s)
    c.putLine area (fieldLine s palette signs s.focus) =
      (c.putGlyphs area.x area.y
          (prompt.glyphs ++ Span.glyphs { text := textBeforeCursor s, style })).putGlyphs
        (area.x + used) area.y
        (fit area.width used (Span.glyphs { text := textAfterCursor s, style })) := by
  intro signs prompt style used
  have hfilled :
      filledCells (prompt.glyphs ++ Span.glyphs { text := textBeforeCursor s, style }) = used := by
    rw [filledCells_append, filledCells_glyphs, filledCells_glyphs]
    exact congrArg (· + _) (drawnCells_focusPrompt s)
  have hline : (fieldLine s palette signs s.focus).flatMap Span.glyphs =
      (prompt.glyphs ++ Span.glyphs { text := textBeforeCursor s, style }) ++
        Span.glyphs { text := textAfterCursor s, style } := by
    rw [fieldLine, decide_eq_true rfl, List.flatMap_cons, List.flatMap_cons, List.flatMap_nil,
      List.append_nil, glyphs_takeClusters_append (s.form.cursor s.focus) (s.form.text s.focus),
      List.append_assoc]
    rfl
  rw [Canvas.putLine, if_neg (by omega), hline, fit_append (by omega), Canvas.putGlyphs_append,
    Nat.zero_add, hfilled]

/-! ## A move to the right -/

theorem totalColumns_take_le (n : Nat) (clusters : List (List Char)) :
    Text.totalColumns (clusters.take n) ≤ Text.totalColumns clusters := by
  induction clusters generalizing n with
  | nil => simp
  | cons cluster rest ih =>
    cases n with
    | zero => exact Nat.zero_le _
    | succ n => exact Nat.add_le_add_left (ih n) _

/-- The text of a panel beside the field does not tell where its cursor is. -/
theorem fieldStatus_move (signs : Signs) (f : Form) (slot : Slot) (m : Motion) :
    fieldStatus signs (f.move slot m) slot = fieldStatus signs f slot := by
  cases slot <;> cases m <;> rfl

theorem focusTextArea_move (m : Motion) :
    focusTextArea (s.move m) width height = focusTextArea s width height := by
  rw [focusTextArea, focusTextArea, Session.move, fieldStatus_move]

theorem focusPrompt_move (m : Motion) : focusPrompt (s.move m) = focusPrompt s := rfl

/-- As long as the count is not too great, it does not fall as the cursor moves on. -/
theorem columnsBeforeCursor_move_right {f : Form} {slot : Slot}
    (h : Text.totalColumns (Text.clusters (f.text slot)) < 0x10000) :
    columnsBeforeCursor f slot ≤ columnsBeforeCursor (f.move slot .right) slot := by
  have hbound (n : Nat) : Text.totalColumns ((Text.clusters (f.text slot)).take n) < 0x10000 :=
    Nat.lt_of_le_of_lt (totalColumns_take_le n _) h
  have htake : (Text.clusters (f.text slot)).take (f.cursor slot) =
      ((Text.clusters (f.text slot)).take
        (min (f.cursor slot + 1) (Text.clusterCount (f.text slot)))).take (f.cursor slot) := by
    rw [List.take_take, List.take_eq_take_iff, Text.clusterCount]
    omega
  rw [columnsBeforeCursor, columnsBeforeCursor, Form.text_move, Form.cursor_move_right,
    Nat.mod_eq_of_lt (hbound _), Nat.mod_eq_of_lt (hbound _), htake]
  exact totalColumns_take_le _ _

theorem cursor_move_right_le
    (h : Text.totalColumns (Text.clusters (s.form.text s.focus)) < 0x10000) :
    (draw s width height).cursor.1 ≤ (draw (s.move .right) width height).cursor.1 := by
  have hcolumns : columnsBeforeCursor s.form s.focus ≤
      columnsBeforeCursor (s.move .right).form (s.move .right).focus :=
    columnsBeforeCursor_move_right h
  rw [cursor_draw, cursor_draw, focusTextArea_move, focusPrompt_move]
  dsimp only
  omega

/-! ## The insertion point -/

/-- In a picture of any size, the terminal cursor stands in the row of the focused field's text. Where
there is no control character before it, and fewer than `2 ^ 16` cells are filled, it stands as many
cells after the prompt as the text before it fills, which is where the text behind it is drawn; or in
the last column, if that is beyond the last. A cluster that is not drawn is counted as one cell, too:
so where there is room, the cursor stands at the insertion point only if there is no such cluster. And
unless the count is too great, it never goes to the left as the cursor of the field goes to the right. -/
theorem cursor_beside_text :
    let area := focusTextArea s width height
    let start := area.x + Text.columns (focusPrompt s)
    let last := area.x + (area.width - 1)
    let before := textBeforeCursor s
    let cursor := (draw s width height).cursor
    cursor = (min (start + (drawnCells before + undrawnClusters before) % 0x10000) last, area.y) ∧
      ((∀ c ∈ before, isControl c = false) → drawnCells before < 0x10000 →
        cursor = (min (start + drawnCells before) last, area.y)) ∧
      (drawnCells before + undrawnClusters before < 0x10000 → start + drawnCells before < last →
        (cursor = (start + drawnCells before, area.y) ↔ ∀ c ∈ before, isControl c = false)) ∧
      (Text.totalColumns (Text.clusters (s.form.text s.focus)) < 0x10000 →
        cursor.1 ≤ (draw (s.move .right) width height).cursor.1) ∧
      ∀ (c : Canvas) (palette : Palette), 0 < area.height →
        Text.columns (focusPrompt s) + drawnCells before ≤ area.width →
        let signs := Signs.ofOptions s.options
        let prompt := Span.ofString (fieldPrompt signs true) { fg := some palette.primary }
        let style : Style := { fg := some palette.primaryText }
        let used := Text.columns (focusPrompt s) + drawnCells before
        c.putLine area (fieldLine s palette signs s.focus) =
          (c.putGlyphs area.x area.y
              (prompt.glyphs ++ Span.glyphs { text := before, style })).putGlyphs
            (area.x + used) area.y
            (fit area.width used (Span.glyphs { text := textAfterCursor s, style })) := by
  intro area start last before cursor
  have hcursor : cursor =
      (min (start + (drawnCells before + undrawnClusters before) % 0x10000) last, area.y) := by
    rw [← columnsBeforeCursor_eq]
    exact cursor_draw s width height
  refine ⟨hcursor, ?_, ?_, cursor_move_right_le s width height,
    fun c palette hheight hroom => putLine_fieldLine s c area palette hheight hroom⟩
  · intro hdrawn hcells
    rw [hcursor, undrawnClusters_eq_zero_iff.2 hdrawn, Nat.add_zero, Nat.mod_eq_of_lt hcells]
  · intro hcount hroom
    rw [hcursor, Nat.mod_eq_of_lt hcount, Prod.mk.injEq, ← undrawnClusters_eq_zero_iff]
    omega

/-- An accent fills no cell of its own, and a wide letter fills two. -/
theorem cursor_beside_text_wide :
    let s := Session.plain.run (fun _ => Request.reconstruct)
      [.event (.paste "1\u0301漢x".toList), .move .left]
    let before := textBeforeCursor s
    let area := focusTextArea s 40 18
    let style : Style := { fg := some Palette.standard.primaryText }
    (∀ c ∈ before, isControl c = false) ∧ drawnCells before = 3 ∧ area = ⟨2, 3, 28, 1⟩ ∧
      (draw s 40 18).cursor = (8, 3) ∧
      (draw s 40 18).cursor.1 ≤ (draw (s.move .right) 40 18).cursor.1 ∧
      (Canvas.blank 40 18).putLine area
          (fieldLine s .standard (Signs.ofOptions s.options) s.focus) =
        ((Canvas.blank 40 18).putGlyphs 2 3
            (Span.glyphs (.ofString " ▸ " { fg := some Palette.standard.primary }) ++
              Span.glyphs { text := before, style })).putGlyphs 8 3 [⟨['x'], style, 1⟩] := by
  intro s before area style
  have hundrawn : undrawnClusters (textBeforeCursor s) = 0 := by decide +kernel
  have hdrawn := undrawnClusters_eq_zero_iff.1 hundrawn
  have hcells : drawnCells (textBeforeCursor s) = 3 := by decide +kernel
  have harea : focusTextArea s 40 18 = ⟨2, 3, 28, 1⟩ := by decide +kernel
  have hcolumns : Text.columns (focusPrompt s) = 3 := by decide +kernel
  have htotal : Text.totalColumns (Text.clusters (s.form.text s.focus)) < 0x10000 := by
    decide +kernel
  have hprompt : fieldPrompt (Signs.ofOptions s.options) true = " ▸ " := by decide +kernel
  have hafter : fit 28 6 (Span.glyphs { text := textAfterCursor s, style }) =
      [⟨['x'], style, 1⟩] := by
    decide +kernel
  have hplace := cursor_beside_text s 40 18
  simp only [harea, hcolumns, hcells, hundrawn, hprompt] at hplace
  obtain ⟨-, -, hexact, hright, hline⟩ := hplace
  have hdraws := hline (Canvas.blank 40 18) .standard (by decide) (by decide)
  rw [hafter] at hdraws
  refine ⟨hdrawn, hcells, harea, (hexact (by decide) (by decide)).2 hdrawn, hright htotal, ?_⟩
  show (Canvas.blank 40 18).putLine (focusTextArea s 40 18) _ = _
  rw [harea]
  exact hdraws

/-- A tab is not drawn, yet the cursor stands a cell behind the place where the text goes on. -/
theorem cursor_beyond_tab :
    let s := Session.plain.run (fun _ => Request.reconstruct) [.event (.paste ['\t'])]
    let area := focusTextArea s 40 18
    let start := area.x + Text.columns (focusPrompt s)
    let last := area.x + (area.width - 1)
    0 < area.width ∧ (draw s 40 18).cursor = (6, 3) ∧
      (min (start + drawnCells (textBeforeCursor s)) last, area.y) = (5, 3) := by
  intro s area start last
  rw [cursor_draw]
  decide +kernel

end Screen
end ResidualForm
