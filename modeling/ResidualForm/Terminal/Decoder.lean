import ResidualForm.Terminal.Sequence

/-!
# ResidualForm.Terminal.Decoder

From the bytes of a terminal to events. Bytes that do not yet make a sequence are kept for the next
piece; bytes that cannot make one are dropped.
-/

namespace ResidualForm
namespace Terminal

def pieceLimit : Nat := 1024

/-- Reads bytes after those kept in `kept`. The result is what is left over, and the events. -/
def decodeBytes (full : Bool) (kept : List Char) : List Char → List Char × List Event
  | [] => (kept, [])
  | c :: rest =>
    match read (!rest.isEmpty || full) (kept ++ [c]) with
    | .incomplete => decodeBytes full (kept ++ [c]) rest
    | .event e =>
      match decodeBytes full [] rest with
      | (kept, events) => (kept, e :: events)
    | _ => decodeBytes full [] rest

/-- Reads bytes piece by piece. After a piece that is full, more bytes are expected at once. -/
def decodePieces (fuel : Nat) (kept bytes : List Char) : List Char × List Event :=
  match fuel with
  | 0 => (kept, [])
  | fuel + 1 =>
    match bytes with
    | [] => (kept, [])
    | bytes =>
      let piece := bytes.take pieceLimit
      match decodeBytes (piece.length == pieceLimit) kept piece with
      | (kept, events) =>
        match decodePieces fuel kept (bytes.drop pieceLimit) with
        | (kept, later) => (kept, events ++ later)

def decode (kept : List Char) (bytes : List UInt8) : List Char × List Event :=
  decodePieces (bytes.length + 1) kept (bytes.map fun b => Char.ofNat b.toNat)

end Terminal
end ResidualForm
