import ResidualForm.Event
import ResidualForm.Text.Decimal
import ResidualForm.Text.Utf8

/-!
# ResidualForm.Terminal.Sequence

The byte sequences a terminal sends, and the events they stand for. A sequence is read again with
every byte that arrives, until it is complete or cannot become so.

Bytes are held as the characters with their codes, so that sequences can be written as text.
-/

namespace ResidualForm
namespace Terminal

/-- What the bytes received so far amount to. -/
inductive Reading where
  | incomplete
  | malformed
  /-- A report that is no event of the user's. -/
  | report
  | event (e : Event)
  deriving DecidableEq, Repr

namespace Reading

def key (k : Key) : Reading :=
  .event (.key { key := k })

/-- The same reading with the Alt key held. -/
def withAlt : Reading → Reading
  | .event (.key k) => .event (.key { k with alt := true })
  | r => r

end Reading

/-- What was held beside a key, and what the key did. -/
structure Manner where
  shift : Bool := false
  alt : Bool := false
  ctrl : Bool := false
  action : KeyAction := .press
  deriving DecidableEq, Repr

/-- Modifiers are sent as one more than a set of bits. -/
def Manner.ofMask (mask : Nat) (action : KeyAction) : Manner :=
  { shift := (mask - 1).testBit 0
    alt := (mask - 1).testBit 1
    ctrl := (mask - 1).testBit 2
    action }

def Manner.reading (m : Manner) (k : Key) : Reading :=
  .event (.key { key := k, ctrl := m.ctrl, alt := m.alt, action := m.action })

def actionOfCode (code : Nat) : KeyAction :=
  if code = 2 then .repeated else if code = 3 then .release else .press

/-- The parts of a text between separators; there is one more of them than of separators. -/
def fields (separator : Char) : List Char → List (List Char)
  | [] => [[]]
  | c :: rest =>
    if c = separator then [] :: fields separator rest
    else
      match fields separator rest with
      | [] => [[c]]
      | field :: others => (c :: field) :: others

/-- Reads modifiers, with the kind of key action after a colon if it is given. -/
def manner? (field : List Char) : Option Manner :=
  match fields ':' field with
  | [] => none
  | mask :: others =>
    match Text.unsigned? 256 mask, others.head?.bind (Text.unsigned? 256) with
    | some mask, some code => some (.ofMask mask (actionOfCode code))
    | some mask, none => some (.ofMask mask .press)
    | none, _ => none

def letterKey? (c : Char) : Option Key :=
  match c with
  | 'A' => some .up
  | 'B' => some .down
  | 'C' => some .right
  | 'D' => some .left
  | 'F' => some .endOfLine
  | 'H' => some .home
  | 'P' => some (.function 1)
  | 'Q' => some (.function 2)
  | 'R' => some (.function 3)
  | 'S' => some (.function 4)
  | _ => none

def numberedKey? (n : Nat) : Option Key :=
  if n = 1 || n = 7 then some .home
  else if n = 2 then some .insert
  else if n = 3 then some .delete
  else if n = 4 || n = 8 then some .endOfLine
  else if n = 5 then some .pageUp
  else if n = 6 then some .pageDown
  else if 11 ≤ n && n ≤ 15 then some (.function (n - 10))
  else if 17 ≤ n && n ≤ 21 then some (.function (n - 11))
  else if 23 ≤ n && n ≤ 26 then some (.function (n - 12))
  else if 28 ≤ n && n ≤ 29 then some (.function (n - 15))
  else if 31 ≤ n && n ≤ 34 then some (.function (n - 17))
  else none

/-- Keys of the keypad and others that have a code of their own in the private use area. -/
def privateKey? (code : Nat) : Option Key :=
  if 57399 ≤ code && code ≤ 57408 then some (.char (Char.ofNat ('0'.toNat + (code - 57399))))
  else if code = 57409 then some (.char '.')
  else if code = 57410 then some (.char '/')
  else if code = 57411 then some (.char '*')
  else if code = 57412 then some (.char '-')
  else if code = 57413 then some (.char '+')
  else if code = 57414 then some .enter
  else if code = 57415 then some (.char '=')
  else if code = 57416 then some (.char ',')
  else if code = 57417 then some .left
  else if code = 57418 then some .right
  else if code = 57419 then some .up
  else if code = 57420 then some .down
  else if code = 57421 then some .pageUp
  else if code = 57422 then some .pageDown
  else if code = 57423 then some .home
  else if code = 57424 then some .endOfLine
  else if code = 57425 then some .insert
  else if code = 57426 then some .delete
  else if 57358 ≤ code && code ≤ 57363 then some .unnamed
  else if 57376 ≤ code && code ≤ 57398 then some (.function (code - 57376 + 13))
  else if 57427 ≤ code && code ≤ 57454 then some .unnamed
  else none

/-- What is held once a key has gone down: the key itself may be one to hold. -/
def Manner.holding (m : Manner) (code : Nat) : Manner :=
  { m with
    shift := m.shift || code = 57441 || code = 57447
    ctrl := m.ctrl || code = 57442 || code = 57448
    alt := m.alt || code = 57443 || code = 57449 }

def codedKey? (m : Manner) (code : Nat) : Option Key :=
  match privateKey? code with
  | some k => some k
  | none =>
    (Text.character? code).map fun c =>
      if c = '\x1b' then .escape
      else if c = '\r' then .enter
      else if c = '\t' then (if m.shift then .backTab else .tab)
      else if c = '\x7f' then .backspace
      else .char c

/-- A key by its code point: `code:shifted;modifiers:kind u`. With Shift the shifted character, if
it is given, is the key. -/
def readCoded (parameters : List Char) : Reading :=
  match fields ';' parameters with
  | [] => .malformed
  | codes :: others =>
    let m := (others.head?.bind manner?).getD {}
    match (fields ':' codes).map (Text.unsigned? 0x100000000) with
    | some code :: alternates =>
      match codedKey? m code with
      | none => .malformed
      | some k =>
        let m := m.holding code
        match m.shift, (alternates.head?.join).bind Text.character? with
        | true, some shifted => m.reading (.char shifted)
        | _, _ => m.reading k
    | _ => .malformed

/-- A key by its number: `number;modifiers:kind ~`. -/
def readTilde (parameters : List Char) : Reading :=
  match fields ';' parameters with
  | [] => .malformed
  | number :: others =>
    match (Text.unsigned? 256 number).bind numberedKey? with
    | none => .malformed
    | some k => ((others.head?.bind manner?).getD {}).reading k

/-- A key by its letter: `number;modifiers:kind letter`. Without readable modifiers the last digit
stands for them. -/
def readLetter (parameters : List Char) (letter : Char) : Reading :=
  match letterKey? letter, ((fields ';' parameters)[1]?).bind manner? with
  | some k, some m => m.reading k
  | some k, none =>
    match parameters.getLast? with
    | none => .key k
    | some c =>
      if c.isDigit then (Manner.ofMask (Text.digitValue c) .press).reading k else .malformed
  | none, _ => .malformed

def pasteStart : List Char := ['2', '0', '0', '~']

def pasteEnd : List Char := ['\x1b', '[', '2', '0', '1', '~']

def readPaste (body : List Char) : Reading :=
  if pasteEnd.isSuffixOf body then
    let text := body.take (body.length - pasteEnd.length)
    match Text.decodeText? (text.map fun c => c.toNat.toUInt8) with
    | some text => .event (.paste text)
    | none => .malformed
  else .incomplete

/-- A sequence that begins with a digit ends with the first character from `@` to `~`. -/
def readNumbered (body : List Char) : Reading :=
  match body.getLast? with
  | none => .incomplete
  | some last =>
    let parameters := body.dropLast
    if last.toNat < 0x40 || 0x7E < last.toNat then .incomplete
    else if pasteStart.isPrefixOf body then readPaste (body.drop pasteStart.length)
    else if last = 'M' then .event .mouse
    else if last = '~' then readTilde parameters
    else if last = 'u' then readCoded parameters
    else if last = 'R' then .report
    else readLetter parameters last

/-- What follows an escape character and a bracket. -/
def readBracket : List Char → Reading
  | [] => .incomplete
  | ['['] => .incomplete
  | '[' :: c :: _ =>
    if 'A' ≤ c && c ≤ 'E' then .key (.function (c.toNat - 'A'.toNat + 1)) else .malformed
  | 'Z' :: _ => .key .backTab
  | 'I' :: _ => .event .focusGained
  | 'O' :: _ => .event .focusLost
  | 'M' :: rest => if rest.length < 3 then .incomplete else .event .mouse
  | '<' :: rest =>
    match rest.getLast? with
    | some 'M' => .event .mouse
    | some 'm' => .event .mouse
    | _ => .incomplete
  | '?' :: rest =>
    match rest.getLast? with
    | some 'u' => if rest.length < 2 then .incomplete else .report
    | some 'c' => .report
    | _ => .incomplete
  | c :: rest =>
    if c.isDigit then (if rest.isEmpty then .incomplete else readNumbered (c :: rest))
    else if c = 'R' then .malformed
    else
      match letterKey? c with
      | some k => .key k
      | none => .malformed

/-- A character of typed text, in UTF-8. -/
def readTyped (codes : List Char) : Reading :=
  let bytes := codes.map fun c => c.toNat.toUInt8
  match bytes with
  | [] => .incomplete
  | first :: rest =>
    match Text.encodedLength? first with
    | none => .malformed
    | some n =>
      if !rest.all Text.isContinuation then .malformed
      else if bytes.length < n then .incomplete
      else
        match Text.decodeCharacter? bytes with
        | some c => .key (.char c)
        | none => .malformed

/-- A key that is one byte long, or typed text. -/
def readPlain : List Char → Reading
  | [] => .incomplete
  | c :: rest =>
    if c = '\r' then .key .enter
    else if c = '\t' then .key .tab
    else if c = '\x7f' then .key .backspace
    else if c.toNat = 0 then .event (.key { key := .char ' ', ctrl := true })
    else if c.toNat ≤ 0x1A then
      .event (.key { key := .char (Char.ofNat (c.toNat - 1 + 'a'.toNat)), ctrl := true })
    else if 0x1C ≤ c.toNat && c.toNat ≤ 0x1F then
      .event (.key { key := .char (Char.ofNat (c.toNat - 0x1C + '4'.toNat)), ctrl := true })
    else readTyped (c :: rest)

/-- Reads the bytes received since the last complete sequence. An escape character on its own is a
key, unless more bytes are already there. -/
def read (more : Bool) : List Char → Reading
  | ['\x1b'] => if more then .incomplete else .key .escape
  | '\x1b' :: '\x1b' :: _ => .key .escape
  | '\x1b' :: '[' :: body => readBracket body
  | ['\x1b', 'O'] => .incomplete
  | '\x1b' :: 'O' :: c :: _ =>
    match letterKey? c with
    | some k => .key k
    | none => .malformed
  | '\x1b' :: rest => (readPlain rest).withAlt
  | codes => readPlain codes

end Terminal
end ResidualForm
