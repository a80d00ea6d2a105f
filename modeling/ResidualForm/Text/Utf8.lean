/-!
# ResidualForm.Text.Utf8

Text as UTF-8 bytes. Only the shortest form of a character is accepted, and no surrogate.
-/

namespace ResidualForm
namespace Text

def byteLength : List Char → Nat
  | [] => 0
  | c :: rest => c.utf8Size + byteLength rest

/-- The number of bytes that a character takes whose first byte is `b`; none begins with some. -/
def encodedLength? (b : UInt8) : Option Nat :=
  if b.toNat < 0x80 then some 1
  else if b.toNat < 0xC0 then none
  else if b.toNat < 0xE0 then some 2
  else if b.toNat < 0xF0 then some 3
  else if b.toNat < 0xF8 then some 4
  else none

def isContinuation (b : UInt8) : Bool :=
  0x80 ≤ b.toNat && b.toNat < 0xC0

/-- The code point with a given number, if it is a character. -/
def character? (n : Nat) : Option Char :=
  if n < 0xD800 || (0xE000 ≤ n && n < 0x110000) then some (Char.ofNat n) else none

def decodeCharacter? : List UInt8 → Option Char
  | [a] => if a.toNat < 0x80 then character? a.toNat else none
  | [a, b] =>
    let n := (a.toNat - 0xC0) * 0x40 + (b.toNat - 0x80)
    if isContinuation b && 0x80 ≤ n then character? n else none
  | [a, b, c] =>
    let n := ((a.toNat - 0xE0) * 0x40 + (b.toNat - 0x80)) * 0x40 + (c.toNat - 0x80)
    if isContinuation b && isContinuation c && 0x800 ≤ n then character? n else none
  | [a, b, c, d] =>
    let n := (((a.toNat - 0xF0) * 0x40 + (b.toNat - 0x80)) * 0x40 + (c.toNat - 0x80)) * 0x40
      + (d.toNat - 0x80)
    if isContinuation b && isContinuation c && isContinuation d && 0x10000 ≤ n then character? n
    else none
  | _ => none

def decodeText? : List UInt8 → Option (List Char)
  | [] => some []
  | b :: rest =>
    match encodedLength? b with
    | none => none
    | some n =>
      match decodeCharacter? (b :: rest.take (n - 1)), decodeText? (rest.drop (n - 1)) with
      | some c, some text => some (c :: text)
      | _, _ => none
termination_by bytes => bytes.length
decreasing_by simp only [List.length_drop, List.length_cons]; omega

end Text
end ResidualForm
