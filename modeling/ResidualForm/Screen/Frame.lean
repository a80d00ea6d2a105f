import ResidualForm.Screen.Canvas
import ResidualForm.Screen.Theme
import ResidualForm.Session

/-!
# ResidualForm.Screen.Frame

The picture of a session: a title, a panel for each field, a panel for the result and a line of
hints, with the cursor in the field that is in focus.
-/

namespace ResidualForm
namespace Screen

/-- Where the parts of the picture go. What finds no room has height 0. -/
structure Page where
  title : Area
  zero : Area
  one : Area
  argument : Area
  result : Area
  hints : Area
  deriving DecidableEq, Repr

namespace Page

def ofScreen (screen : Area) : Page :=
  let body := screen.inner
  { title := body.rows 0 1
    zero := body.rows 1 3
    one := body.rows 4 3
    argument := body.rows 7 3
    result := body.rows 10 3
    hints := body.rows (max 13 (body.height - 1)) 1 }

def panel (p : Page) : Slot → Area
  | .zero => p.zero
  | .one => p.one
  | .argument => p.argument

end Page

structure Frame where
  canvas : Canvas
  cursor : Nat × Nat

/-- The right-hand side of a panel: how full the field is, or how far its number may go, and the
mark that tells whether all is well. -/
def fieldStatus (signs : Signs) (form : Form) (slot : Slot) : String :=
  let sign := if form.indicator slot then signs.valid else signs.invalid
  let limit := form.settings.residualLimit
  match slot with
  | .zero => s!" {form.zero.size}/{limit} {sign} "
  | .one => s!" {form.one.size}/{limit} {sign} "
  | .argument => s!" max: {form.zero.hint} {sign} "

/-- What stands before the text of a field. -/
def fieldPrompt (signs : Signs) (focused : Bool) : String :=
  if focused then s!" {signs.focus} " else "   "

/-- The columns that the right-hand side of a panel gets. It leaves one to the text at least. -/
def statusColumns (panel : Area) (status : String) : Nat :=
  min (Text.columns status.toList) (panel.inner.width - 1)

/-- The part of a panel that the text of a field has for itself. -/
def fieldTextArea (panel : Area) (status : String) : Area :=
  panel.inner.dropRight (statusColumns panel status)

/-- The left-hand side of a panel: the prompt and the text of the field. -/
def fieldLine (s : Session) (palette : Palette) (signs : Signs) (slot : Slot) : List Span :=
  [.ofString (fieldPrompt signs (decide (s.focus = slot))) { fg := some palette.primary },
    { text := s.form.text slot, style := { fg := some palette.primaryText } }]

/-- The columns of the clusters before the cursor, as a 16-bit number. -/
def columnsBeforeCursor (form : Form) (slot : Slot) : Nat :=
  Text.totalColumns ((Text.clusters (form.text slot)).take (form.cursor slot)) % 0x10000

/-- The place of the cursor in a field: after the prompt and the clusters before it, and never
beyond the last column of the text. -/
def fieldCursor (textArea : Area) (prompt : String) (before : Nat) : Nat × Nat :=
  (min (textArea.x + Text.columns prompt.toList + before) (textArea.x + (textArea.width - 1)),
    textArea.y)

def putPanel (c : Canvas) (a : Area) (palette : Palette) (border : Color) (title : Span) : Canvas :=
  let c := (c.fill a { bg := some palette.panel }).putBorder a { fg := some border }
  c.putLine { x := a.x + 1, y := a.y, width := a.width - 2, height := min 1 a.height } [title]

def putField (c : Canvas) (s : Session) (palette : Palette) (signs : Signs) (page : Page)
    (slot : Slot) : Canvas :=
  let focused := decide (s.focus = slot)
  let panel := page.panel slot
  let status := fieldStatus signs s.form slot
  let textArea := fieldTextArea panel status
  let border := if focused then palette.primary else palette.border
  let c := putPanel c panel palette border
    (.ofString s!" {slot.label} " (palette.label focused))
  let c := c.putLine textArea (fieldLine s palette signs slot)
  c.putLine (panel.inner.takeRight (statusColumns panel status))
    [.ofString status (palette.indicator (s.form.indicator slot))]

/-- The line in the result panel. The number of rows stands beside an output that is a function. -/
def resultLine (s : Session) (palette : Palette) (signs : Signs) : List Span :=
  let view := s.result.view
  let muted : Style := { fg := some palette.mutedText }
  [.ofString " " {}, .ofString view.text (palette.resultText view.isError)]
    ++ (if s.loading then [.ofString s!" {signs.pending}" muted] else [])
    ++ match view with
      | .output output =>
        if s.result.isReset then []
        else [.ofString s!"  ({output.utf8ByteSize} rows)" muted]
      | .error _ => []

def putResult (c : Canvas) (s : Session) (palette : Palette) (signs : Signs) (a : Area) : Canvas :=
  let border := if s.result.view.isError then palette.error else palette.border
  (putPanel c a palette border
    (.ofString " Function: " { fg := some palette.accent, bold := true })).putLine a.inner
    (resultLine s palette signs)

def titleLine (palette : Palette) : List Span :=
  [.ofString "Cofactor" { fg := some palette.primary, bold := true },
    .ofString "  rebuild a function from its residuals" { fg := some palette.mutedText }]

def hintLine (s : Session) (palette : Palette) : List Span :=
  [.ofString "Tab" palette.keyName, .ofString " next  " palette.keyHint,
    .ofString "Ctrl+U" palette.keyName, .ofString " clear  " palette.keyHint,
    .ofString "Ctrl+R" palette.keyName, .ofString " sample  " palette.keyHint,
    .ofString "Esc" palette.keyName, .ofString " quit " palette.keyHint]
    ++ match s.status with
      | some message => [.ofString s!"  {message}" { fg := some palette.secondaryText }]
      | none => []

def cursorPlace (s : Session) (screen : Area) : Nat × Nat :=
  let signs := Signs.ofOptions s.options
  let panel := (Page.ofScreen screen).panel s.focus
  fieldCursor (fieldTextArea panel (fieldStatus signs s.form s.focus)) (fieldPrompt signs true)
    (columnsBeforeCursor s.form s.focus)

def draw (s : Session) (width height : Nat) : Frame :=
  let palette := Palette.ofOptions s.options
  let signs := Signs.ofOptions s.options
  let canvas := Canvas.blank width height
  let page := Page.ofScreen canvas.area
  let canvas := canvas.fill canvas.area { bg := some palette.background }
  let canvas := canvas.putLine page.title (titleLine palette)
  let canvas := Slot.all.foldl (fun c slot => putField c s palette signs page slot) canvas
  let canvas := putResult canvas s palette signs page.result
  let canvas := canvas.putLine page.hints (hintLine s palette)
  { canvas, cursor := cursorPlace s canvas.area }

end Screen
end ResidualForm
