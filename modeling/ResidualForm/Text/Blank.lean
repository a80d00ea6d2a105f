import ResidualForm.Text.Ranges

/-!
# ResidualForm.Text.Blank

Blank characters (White_Space) and texts trimmed of them.
-/

namespace ResidualForm
namespace Text

def blankCharacters : Ranges :=
  [(0x9, 0xD), (0x20, 0x20), (0x85, 0x85), (0xA0, 0xA0), (0x1680, 0x1680), (0x2000, 0x200A),
    (0x2028, 0x2029), (0x202F, 0x202F), (0x205F, 0x205F), (0x3000, 0x3000)]

def isBlank (c : Char) : Bool :=
  blankCharacters.has c

/-- A text without the blank characters at its two ends. -/
def trim (text : List Char) : List Char :=
  ((text.dropWhile isBlank).reverse.dropWhile isBlank).reverse

/-- A text that is empty or only blank. -/
def allBlank (text : List Char) : Bool :=
  text.all isBlank

end Text
end ResidualForm
