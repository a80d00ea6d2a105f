import ResidualForm.Text.Property.Columns
import ResidualForm.Text.Property.Joining

/-!
# ResidualForm.Text.Width

How many columns a cluster takes on a terminal. Characters add up unless they merge: emoji tied by
joiners are two columns wide together, a skin tone or a selector changes the emoji before it, and
some letters share a column. A text is measured from its end, because what a character takes
depends on what stands to its right.
-/

namespace ResidualForm
namespace Text

/-- The columns of a character on its own; a control counts as one. -/
def characterColumns (c : Char) : Nat :=
  if c.toNat < 0x300 then (if c.toNat = 0xAD then 0 else 1)
  else if columnless.has c then 0
  else if wide.has c || c.toNat = 0x17A4 then 2
  else if c.toNat = 0x17D8 then 3
  else 1

/-- What begins to the right of a character, as far as a character can merge with it. -/
inductive Ahead where
  | plain
  | lineFeed
  | textSelector
  | emojiSelector
  /-- The selector of the fullwidth form of a quotation mark. -/
  | fullwidthSelector
  | tone
  /-- A letter of a flag. -/
  | letter
  | letters
  | emoji
  /-- A joiner and an emoji. -/
  | joined
  /-- The same with the emoji selector, a keycap, or letters of a flag before it. -/
  | joinedSelector
  | joinedKeycap
  | joinedLetter
  | joinedFlag
  /-- The same with the end of a tag sequence before it: so many letters, or so many digits. -/
  | joinedTags (letters : Nat)
  | joinedDigits (digits : Nat)
  /-- A Khmer letter that goes below the one before a coeng sign. -/
  | coengLetter
  /-- The Kirat Rai vowel signs E and AI. -/
  | vowelE
  | vowelAI
  deriving DecidableEq, Repr

def isJoiner (c : Char) : Bool :=
  c.toNat = 0x200D

def isTagLetter (c : Char) : Bool :=
  0xE0061 ≤ c.toNat && c.toNat ≤ 0xE007A

def isTagDigit (c : Char) : Bool :=
  0xE0030 ≤ c.toNat && c.toNat ≤ 0xE0039

def isQuotationMark (c : Char) : Bool :=
  c = '‘' || c = '’' || c = '“' || c = '”'

/-- The black flag that tag sequences begin with. -/
def isTagBase (c : Char) : Bool :=
  c.toNat = 0x1F3F4

/-- What a character is to its left neighbour when it does not merge with its right one. -/
def aheadOf (c : Char) : Ahead :=
  if c = '\n' then .lineFeed
  else if c.toNat < 0x300 then .plain
  else if c.toNat = 0xFE0E then .textSelector
  else if c.toNat = 0xFE0F then .emojiSelector
  else if c.toNat = 0xFE01 then .fullwidthSelector
  else if emojiModifier.has c then .tone
  else if regionalIndicator.has c then .letter
  else if emojiPresentation.has c then .emoji
  else if coengLetter.has c then .coengLetter
  else if c.toNat = 0x16D67 then .vowelE
  else if c.toNat = 0x16D68 then .vowelAI
  else .plain

/-- What a character adds where it merges with what is ahead of it, and what is ahead then. -/
def merge? (c : Char) : Ahead → Option (Int × Ahead)
  | .plain => none
  | .lineFeed => if c = '\r' then some (0, .plain) else none
  | .textSelector => if textSelectable.has c then some (1, .plain) else none
  | .emojiSelector => if emojiSelectable.has c then some (2, .emoji) else none
  | .fullwidthSelector => if isQuotationMark c then some (2, .plain) else none
  | .tone =>
    if emojiModifierBase.has c then some (0, .emoji)
    else if isJoiner c then some (0, .joined)
    else none
  | .letter => if regionalIndicator.has c then some (1, .letters) else none
  | .letters =>
    if regionalIndicator.has c then some (1, .letters)
    else if isJoiner c then some (0, .joined)
    else none
  | .emoji => if isJoiner c then some (0, .joined) else none
  | .joined =>
    if c.toNat = 0xFE0F then some (0, .joinedSelector)
    else if c.toNat = 0x20E3 then some (0, .joinedKeycap)
    else if regionalIndicator.has c then some (1, .joinedLetter)
    else if emojiModifier.has c then some (0, .tone)
    else if c.toNat = 0xE007F then some (0, .joinedTags 0)
    else if emojiPresentation.has c then some (0, .emoji)
    else none
  | .joinedSelector => if emojiSelectable.has c then some (0, .emoji) else none
  | .joinedKeycap => if c.toNat = 0xFE0F then some (0, .joinedSelector) else none
  | .joinedLetter => if regionalIndicator.has c then some (-1, .joinedFlag) else none
  | .joinedFlag =>
    if regionalIndicator.has c then some (3, .joinedLetter)
    else if isJoiner c then some (0, .joined)
    else none
  | .joinedTags n =>
    if isTagLetter c && n < 6 then some (0, .joinedTags (n + 1))
    else if isTagDigit c && n < 5 then some (0, .joinedDigits 1)
    else if isTagBase c && 3 ≤ n then some (0, .emoji)
    else none
  | .joinedDigits n =>
    if isTagDigit c && n < 3 then some (0, .joinedDigits (n + 1))
    else if isTagBase c && n = 3 then some (0, .emoji)
    else none
  | .coengLetter =>
    if c.toNat = 0x17D2 then some (-1, .plain)
    else if isJoiner c || ignorableMark.has c then some (0, .coengLetter)
    else none
  | .vowelE =>
    if c.toNat = 0x16D63 || c.toNat = 0x16D69 then some (0, .plain)
    else if c.toNat = 0x16D67 then some (0, .vowelAI)
    else if c.toNat = 0x16D68 then some (1, .vowelE)
    else none
  | .vowelAI => if c.toNat = 0x16D63 then some (0, .plain) else none

/-- The end of a text: its columns, and what its first character is to one before it. -/
structure Extent where
  columns : Nat := 0
  ahead : Ahead := .plain
  deriving DecidableEq, Repr

/-- Puts a character before the end of a text. -/
def Extent.precede (c : Char) (e : Extent) : Extent :=
  match merge? c e.ahead with
  | some (n, ahead) => { columns := (e.columns + n).toNat, ahead }
  | none => { columns := e.columns + characterColumns c, ahead := aheadOf c }

def columns (cluster : List Char) : Nat :=
  (cluster.foldr Extent.precede {}).columns

def totalColumns : List (List Char) → Nat
  | [] => 0
  | cluster :: rest => columns cluster + totalColumns rest

end Text
end ResidualForm
