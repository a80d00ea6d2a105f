import ResidualForm.Screen.Style
import ResidualForm.Text.Cluster
import ResidualForm.Text.Width

/-!
# ResidualForm.Screen.Canvas

A grid of cells to draw on, and lines of styled text cut to the room they have. A cluster stands
whole in one cell; clusters that hold a control character, or that take no column, are not drawn.
-/

namespace ResidualForm
namespace Screen

structure Area where
  x : Nat
  y : Nat
  width : Nat
  height : Nat
  deriving DecidableEq, Repr

namespace Area

/-- The area without a margin of one cell on every side. -/
def inner (a : Area) : Area :=
  { x := a.x + 1, y := a.y + 1, width := a.width - 2, height := a.height - 2 }

/-- The part of the area that is left of `height` rows from row `top` on. -/
def rows (a : Area) (top height : Nat) : Area :=
  { a with y := a.y + min top a.height, height := min height (a.height - top) }

def dropRight (a : Area) (n : Nat) : Area :=
  { a with width := a.width - n }

def takeRight (a : Area) (n : Nat) : Area :=
  { a with x := a.x + (a.width - n), width := min n a.width }

end Area

structure Cell where
  symbol : List Char := [' ']
  fg : Color := .reset
  bg : Color := .reset
  bold : Bool := false
  deriving DecidableEq, Repr

def Cell.restyle (c : Cell) (style : Style) : Cell :=
  { c with
    fg := style.fg.getD c.fg
    bg := style.bg.getD c.bg
    bold := c.bold || style.bold }

structure Span where
  text : List Char
  style : Style := {}
  deriving DecidableEq, Repr

def Span.ofString (text : String) (style : Style) : Span :=
  { text := text.toList, style }

/-- A cluster ready to be drawn. -/
structure Glyph where
  symbol : List Char
  style : Style
  columns : Nat
  deriving DecidableEq, Repr

def isControl (c : Char) : Bool :=
  c.toNat < 0x20 || (0x7F ≤ c.toNat && c.toNat < 0xA0)

/-- The clusters of a text that are drawn. -/
def drawnClusters (text : List Char) : List (List Char) :=
  (Text.clusters text).filter fun cluster => !cluster.any isControl

def Span.glyphs (s : Span) : List Glyph :=
  (drawnClusters s.text).map fun symbol =>
    { symbol, style := s.style, columns := Text.columns symbol }

/-- What fits into a line of `width` columns of which `used` are taken. A glyph that would not even
fit into an empty line is left out; the first one that has no room ends the line. -/
def fit (width used : Nat) : List Glyph → List Glyph
  | [] => []
  | g :: rest =>
    if width < g.columns then fit width used rest
    else if width < used + g.columns then []
    else g :: fit width (used + g.columns) rest

structure Canvas where
  width : Nat
  height : Nat
  /-- The cells, row by row. -/
  cells : Array Cell

namespace Canvas

def blank (width height : Nat) : Canvas :=
  { width, height, cells := Array.replicate (width * height) {} }

def area (c : Canvas) : Area :=
  { x := 0, y := 0, width := c.width, height := c.height }

/-- Changes the cell in column `x` of row `y`, if there is one. -/
def modify (c : Canvas) (x y : Nat) (f : Cell → Cell) : Canvas :=
  if x < c.width ∧ y < c.height then { c with cells := c.cells.modify (y * c.width + x) f } else c

def put (c : Canvas) (x y : Nat) (symbol : List Char) (style : Style) : Canvas :=
  c.modify x y fun cell => { cell.restyle style with symbol }

def fill (c : Canvas) (a : Area) (style : Style) : Canvas :=
  (List.range a.height).foldl
    (fun c y =>
      (List.range a.width).foldl (fun c x => c.modify (a.x + x) (a.y + y) (·.restyle style)) c)
    c

/-- Draws glyphs side by side from column `x` on. The second cell of a wide one stays as it is. -/
def putGlyphs (c : Canvas) (x y : Nat) : List Glyph → Canvas
  | [] => c
  | g :: rest =>
    if g.columns = 0 then c.putGlyphs x y rest
    else (c.put x y g.symbol g.style).putGlyphs (x + g.columns) y rest

def putLine (c : Canvas) (a : Area) (line : List Span) : Canvas :=
  if a.height = 0 then c
  else c.putGlyphs a.x a.y (fit a.width 0 (line.flatMap Span.glyphs))

/-- Draws a border with rounded corners along the edge of an area. -/
def putBorder (c : Canvas) (a : Area) (style : Style) : Canvas :=
  if a.width < 2 || a.height < 2 then c
  else
    let right := a.x + a.width - 1
    let bottom := a.y + a.height - 1
    let c := (List.range a.width).foldl
      (fun c x => (c.put (a.x + x) a.y ['─'] style).put (a.x + x) bottom ['─'] style) c
    let c := (List.range a.height).foldl
      (fun c y => (c.put a.x (a.y + y) ['│'] style).put right (a.y + y) ['│'] style) c
    (((c.put a.x a.y ['╭'] style).put right a.y ['╮'] style).put a.x bottom ['╰'] style).put
      right bottom ['╯'] style

/-- The cells of the canvas, a list for each row. -/
def rows (c : Canvas) : List (List Cell) :=
  (List.range c.height).map fun y => (c.cells.extract (y * c.width) ((y + 1) * c.width)).toList

end Canvas
end Screen
end ResidualForm
