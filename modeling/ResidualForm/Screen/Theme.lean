import ResidualForm.Options
import ResidualForm.Screen.Style

/-!
# ResidualForm.Screen.Theme

The colours and the signs of the display, for each choice of options.
-/

namespace ResidualForm
namespace Screen

structure Palette where
  background : Color
  panel : Color
  border : Color
  primaryText : Color
  secondaryText : Color
  mutedText : Color
  primary : Color
  accent : Color
  success : Color
  error : Color
  peach : Color
  deriving DecidableEq, Repr

namespace Palette

def standard : Palette where
  background := .rgb 22 22 29
  panel := .rgb 31 31 40
  border := .rgb 84 84 109
  primaryText := .rgb 220 215 186
  secondaryText := .rgb 200 192 147
  mutedText := .rgb 114 113 105
  primary := .rgb 149 127 184
  accent := .rgb 127 180 202
  success := .rgb 152 187 108
  error := .rgb 255 93 98
  peach := .rgb 255 160 102

def highContrast : Palette where
  background := .black
  panel := .black
  border := .gray
  primaryText := .white
  secondaryText := .gray
  mutedText := .darkGray
  primary := .white
  accent := .cyan
  success := .green
  error := .red
  peach := .yellow

def ofOptions (options : DisplayOptions) : Palette :=
  if options.highContrast then highContrast else standard

def label (p : Palette) (focused : Bool) : Style :=
  if focused then { fg := some p.primary, bold := true } else { fg := some p.secondaryText }

def indicator (p : Palette) (ok : Bool) : Style :=
  { fg := some (if ok then p.success else p.error), bold := true }

def resultText (p : Palette) (isError : Bool) : Style :=
  if isError then { fg := some p.error, bold := true } else { fg := some p.primaryText }

def keyHint (p : Palette) : Style :=
  { fg := some p.mutedText }

def keyName (p : Palette) : Style :=
  { fg := some p.peach, bold := true }

end Palette

/-- The signs beside the fields and the result. -/
structure Signs where
  valid : String
  invalid : String
  focus : String
  pending : String
  deriving DecidableEq, Repr

def Signs.ofOptions (options : DisplayOptions) : Signs :=
  if options.asciiOnly then { valid := "OK", invalid := "!!", focus := ">", pending := "..." }
  else { valid := "✓", invalid := "✗", focus := "▸", pending := "…" }

end Screen
end ResidualForm
