import ResidualForm.Text.Decimal
import ResidualForm.Toml.Node
import ResidualForm.Toml.Quotation

/-!
# ResidualForm.Toml.Scalar

Values that are written without quotes or brackets: numbers, truth values, dates and times. Each is
a word, which ends at a blank, at a bracket, or at another mark of the document.
-/

namespace ResidualForm
namespace Toml

def splitSign : List Char → Bool × List Char
  | '+' :: rest => (false, rest)
  | '-' :: rest => (true, rest)
  | text => (false, text)

def isBinaryDigit (c : Char) : Bool := c = '0' || c = '1'

def isOctalDigit (c : Char) : Bool := '0' ≤ c && c ≤ '7'

def isHexDigit (c : Char) : Bool := (hexValue? c).isSome

/-- Whether every underscore stands between two digits; the first one may also follow a sign
(`opened`). -/
def underscoresFit (isDigit : Char → Bool) (opened : Bool) : List Char → Bool
  | [] => true
  | '_' :: rest =>
    opened && (rest.head?.map isDigit).getD false && underscoresFit isDigit false rest
  | c :: rest => underscoresFit isDigit (isDigit c) rest

def dropUnderscores (text : List Char) : List Char :=
  text.filter (· ≠ '_')

def valueIn (base : Nat) (digits : List Char) : Nat :=
  digits.foldl (fun value c => value * base + (hexValue? c).getD 0) 0

/-- A number that is held if some machine type of at most 128 bits holds it. -/
def integerNode (value : Int) : Node :=
  if -0x80000000000000000000000000000000 ≤ value && value < 0x100000000000000000000000000000000 then
    .integer value
  else .unreadable

/-- The digits after a mark of their base. There may be none; they make no number then. -/
def basedInteger? (base : Nat) (isDigit : Char → Bool) (text : List Char) : Option Node :=
  let digits := dropUnderscores text
  if !digits.all isDigit || !underscoresFit isHexDigit false text then none
  else if digits.isEmpty then some .unreadable
  else some (integerNode (Int.ofNat (valueIn base digits)))

/-- A whole number in base ten, without needless zeros in front. After an underscore other signs
are let through; they make no number. -/
def decimalInteger? (signed negative : Bool) (text : List Char) : Option Node :=
  let rest := text.dropWhile Char.isDigit
  let digits := dropUnderscores text
  if text.isEmpty || !(rest.isEmpty || rest.head? = some '_') then none
  else if text.head? = some '0' && text.length ≠ 1 then none
  else if !underscoresFit isHexDigit signed text then none
  else if !digits.all Char.isDigit then some .unreadable
  else
    let value := Int.ofNat (Text.decimalValue digits)
    some (integerNode (if negative then -value else value))

/-- Whether `digits` times ten to the power `exponent` rounds to a number beyond all 64-bit floats.
Those end halfway between the greatest one and 2^1024. -/
def isTooLarge (digits : List Char) (exponent : Int) : Bool :=
  let significant := digits.dropWhile (· = '0')
  let magnitude : Int := Int.ofNat significant.length + exponent
  let bound := Nat.pow 2 1024 - Nat.pow 2 970
  if significant.isEmpty then false
  else if 310 < magnitude then true
  else if magnitude < 300 then false
  else if 0 ≤ exponent then bound ≤ Text.decimalValue significant * Nat.pow 10 exponent.toNat
  else bound * Nat.pow 10 (-exponent).toNat ≤ Text.decimalValue significant

/-- Digits and underscores at the start of a text, the former alone, and what follows. -/
def spanDigits (text : List Char) : List Char × List Char :=
  let (digits, rest) := text.span fun c => c.isDigit || c = '_'
  (dropUnderscores digits, rest)

/-- The exponent after an `e`, with any number of zeros in front. -/
def exponent? (text : List Char) : Option Int :=
  let (negative, text) := splitSign text
  match spanDigits text with
  | ([], _) => none
  | (digits, []) =>
    let value := Int.ofNat (Text.decimalValue digits)
    some (if negative then -value else value)
  | _ => none

/-- A float as its digits and its power of ten. A fraction or an exponent makes it one. -/
def floatDigits? (text : List Char) : Option (List Char × Int) :=
  match spanDigits text with
  | ([], _) => none
  | (whole, rest) =>
    if text.head? = some '0' && whole.length ≠ 1 then none
    else
      match rest with
      | '.' :: rest =>
        match spanDigits rest with
        | ([], _) => none
        | (part, []) => some (whole ++ part, -Int.ofNat part.length)
        | (part, e :: power) =>
          if e = 'e' || e = 'E' then
            (exponent? power).map fun power => (whole ++ part, power - Int.ofNat part.length)
          else none
      | e :: power =>
        if e = 'e' || e = 'E' then (exponent? power).map fun power => (whole, power) else none
      | [] => none

def float? (signed : Bool) (text : List Char) : Option Node :=
  if underscoresFit Char.isDigit signed text then
    (floatDigits? text).map fun (digits, power) =>
      if isTooLarge digits power then .unreadable else .float
  else none

/-- A number by its looks: a mark of its base, or a point or an exponent after the first digits. -/
def number? (word : List Char) : Option Node :=
  let (negative, text) := splitSign word
  let signed := word.length != text.length
  match signed, text with
  | false, '0' :: 'x' :: digits => basedInteger? 16 isHexDigit digits
  | false, '0' :: 'o' :: digits => basedInteger? 8 isOctalDigit digits
  | false, '0' :: 'b' :: digits => basedInteger? 2 isBinaryDigit digits
  | _, _ =>
    if text = ['i', 'n', 'f'] || text = ['n', 'a', 'n'] then some .float
    else if (text.dropWhile Char.isDigit).any fun c => c = '.' || c = 'e' || c = 'E' then
      float? signed text
    else decimalInteger? signed negative text

/-- A number of exactly two digits that is at most `greatest`. -/
def twoDigits? (greatest : Nat) : List Char → Option (Nat × List Char)
  | a :: b :: rest =>
    let n := Text.digitValue a * 10 + Text.digitValue b
    if a.isDigit && b.isDigit && n ≤ greatest then some (n, rest) else none
  | _ => none

def isLeapYear (year : Nat) : Bool :=
  year % 4 = 0 && (year % 100 ≠ 0 || year % 400 = 0)

def daysOfMonth (year month : Nat) : Nat :=
  if month = 2 then (if isLeapYear year then 29 else 28)
  else if month = 4 || month = 6 || month = 9 || month = 11 then 30
  else 31

/-- What follows a date at the start of a text, if the text starts with one. -/
def afterDate? : List Char → Option (List Char)
  | a :: b :: c :: d :: '-' :: rest =>
    if [a, b, c, d].all Char.isDigit then
      match twoDigits? 12 rest with
      | some (month, '-' :: rest) =>
        match twoDigits? (daysOfMonth (Text.decimalValue [a, b, c, d]) month) rest with
        | some (day, rest) => if month = 0 || day = 0 then none else some rest
        | none => none
      | _ => none
    else none
  | _ => none

/-- What follows the fraction of a second. -/
def afterFraction? : List Char → Option (List Char)
  | '.' :: c :: rest => if c.isDigit then some (rest.dropWhile Char.isDigit) else none
  | '.' :: _ => none
  | rest => some rest

/-- What follows a time of day at the start of a text. Seconds can be left out. -/
def afterTime? (text : List Char) : Option (List Char) :=
  match twoDigits? 23 text with
  | some (_, ':' :: rest) =>
    match twoDigits? 59 rest with
    | some (_, ':' :: rest) => (twoDigits? 60 rest).bind fun (_, rest) => afterFraction? rest
    | some (_, rest) => some rest
    | none => none
  | _ => none

/-- Whether a text is an offset from universal time, or empty. -/
def isOffset : List Char → Bool
  | [] => true
  | ['Z'] => true
  | ['z'] => true
  | sign :: rest =>
    (sign = '+' || sign = '-') &&
      match twoDigits? 23 rest with
      | some (_, ':' :: rest) => (twoDigits? 59 rest).map Prod.snd == some []
      | _ => false

def isDate (text : List Char) : Bool :=
  afterDate? text == some []

def isDateTime (text : List Char) : Bool :=
  match afterDate? text with
  | some [] => true
  | some (separator :: rest) =>
    (separator = 'T' || separator = 't' || separator = ' ') &&
      match afterTime? rest with
      | some rest => isOffset rest
      | none => false
  | none => afterTime? text == some []

def scalar? (word : List Char) : Option Node :=
  if word = ['t', 'r', 'u', 'e'] then some (.boolean true)
  else if word = ['f', 'a', 'l', 's', 'e'] then some (.boolean false)
  else if isDateTime word then some .dateTime
  else number? word

def endsWord (c : Char) : Bool :=
  c = ' ' || c = '\t' || c = '\n' || c = '\r' || c = ',' || c = '[' || c = ']' || c = '{'
    || c = '}' || c = '#' || c = '='

/-- Reads a word. A date and a time may stand apart by one space. -/
def readScalar (text : List Char) : Option (Node × List Char) :=
  let (word, rest) := text.span fun c => !endsWord c
  match isDate word, rest with
  | true, ' ' :: c :: more =>
    if c.isDigit then
      let (time, rest) := (c :: more).span fun c => !endsWord c
      (scalar? (word ++ ' ' :: time)).map fun node => (node, rest)
    else some (.dateTime, rest)
  | _, _ => (scalar? word).map fun node => (node, rest)

end Toml
end ResidualForm
