import ResidualForm.Toml.Scalar

/-!
# ResidualForm.Toml.Document

From the text of a TOML document to its tree. Keys before the first header belong to the document
itself, later ones to the header above them. `parse?` gives nothing for a text that breaks a rule
anywhere, even in parts that nobody looks at.
-/

namespace ResidualForm
namespace Toml

/-- How deep arrays and inline tables may be nested. -/
def greatestDepth : Nat := 80

/-- How many parts a key may have. -/
def longestPath : Nat := 80

def skipBlanks (text : List Char) : List Char :=
  text.dropWhile fun c => c = ' ' || c = '\t'

/-- What follows the end of a line, at which the text has to stand. -/
def afterLineEnd? : List Char → Option (List Char)
  | '\n' :: rest => some rest
  | '\r' :: '\n' :: rest => some rest
  | _ => none

def afterComment? (text : List Char) : Option (List Char) :=
  let rest := text.dropWhile fun c => !isForbidden c
  match rest with
  | [] => some []
  | rest => if (afterLineEnd? rest).isSome then some rest else none

/-- What follows the rest of a line that holds nothing more, and the end of the line. -/
def afterLine? (text : List Char) : Option (List Char) :=
  let text := skipBlanks text
  let rest :=
    match text with
    | '#' :: rest => afterComment? rest
    | rest => some rest
  match rest with
  | none => none
  | some [] => some []
  | some rest => afterLineEnd? rest

def skipLines : Nat → List Char → Option (List Char)
  | 0, text => some text
  | fuel + 1, text =>
    match skipBlanks text with
    | '#' :: rest => (afterComment? rest).bind (skipLines fuel)
    | rest =>
      match afterLineEnd? rest with
      | some rest => skipLines fuel rest
      | none => some rest

def skipSpace (text : List Char) : Option (List Char) :=
  skipLines (2 * text.length) text

def isBareKey (c : Char) : Bool :=
  c.isAlphanum || c = '_' || c = '-'

/-- One part of a key: bare, or in quotes of one line. -/
def readKey (text : List Char) : Option (Key × List Char) :=
  match text with
  | '"' :: rest => readShort .content rest
  | '\'' :: rest => readLiteral rest
  | text =>
    match text.span isBareKey with
    | ([], _) => none
    | (key, rest) => some (key, rest)

/-- A key of at most so many parts between dots, and the blanks after it. -/
def readPath : Nat → List Char → Option (List Key × List Char)
  | 0, _ => none
  | parts + 1, text =>
    match readKey (skipBlanks text) with
    | none => none
    | some (key, rest) =>
      match skipBlanks rest with
      | '.' :: rest => (readPath parts rest).map fun (path, rest) => (key :: path, rest)
      | rest => some ([key], rest)

/-- Reads a key, an equals sign and a value, with what `gap` skips around the sign. -/
def readAssignment (gap : List Char → Option (List Char))
    (value : List Char → Option (Node × List Char)) (text : List Char) :
    Option ((List Key × Node) × List Char) :=
  match readPath longestPath text with
  | none => none
  | some (path, rest) =>
    match gap rest with
    | some ('=' :: rest) =>
      ((gap rest).bind value).map fun (node, rest) => ((path, node), rest)
    | _ => none

/-- The items of an array up to its closing bracket. A comma may follow the last one. -/
def readItems (value : List Char → Option (Node × List Char)) :
    Nat → List Char → Option (List Node × List Char)
  | 0, _ => none
  | fuel + 1, text =>
    match skipSpace text with
    | none => none
    | some (']' :: rest) => some ([], rest)
    | some text =>
      match value text with
      | none => none
      | some (item, rest) =>
        match skipSpace rest with
        | some (']' :: rest) => some ([item], rest)
        | some (',' :: rest) =>
          (readItems value fuel rest).map fun (items, rest) => (item :: items, rest)
        | _ => none

/-- The keys of an inline table up to its closing brace. A comma may follow the last one, and lines
may end anywhere but inside a key. -/
def readPairs (value : List Char → Option (Node × List Char)) :
    Nat → List Char → Option (List (List Key × Node) × List Char)
  | 0, _ => none
  | fuel + 1, text =>
    match skipSpace text with
    | none => none
    | some ('}' :: rest) => some ([], rest)
    | some text =>
      match readAssignment skipSpace value text with
      | none => none
      | some (pair, rest) =>
        match skipSpace rest with
        | some ('}' :: rest) => some ([pair], rest)
        | some (',' :: rest) =>
          (readPairs value fuel rest).map fun (pairs, rest) => (pair :: pairs, rest)
        | _ => none

/-- Reads a value that nests brackets and braces at most so deep. -/
def readValue : Nat → List Char → Option (Node × List Char)
  | 0, '[' :: _ => none
  | 0, '{' :: _ => none
  | depth + 1, '[' :: rest =>
    (readItems (readValue depth) (rest.length + 1) rest).map fun (items, rest) =>
      (.array items, rest)
  | depth + 1, '{' :: rest =>
    match readPairs (readValue depth) (rest.length + 1) rest with
    | none => none
    | some (pairs, rest) =>
      (Entries.assignAll [] pairs).map fun entries => (.table .inline entries, rest)
  | _, '"' :: rest => (readString ('"' :: rest)).map fun (text, rest) => (.text text, rest)
  | _, '\'' :: rest => (readString ('\'' :: rest)).map fun (text, rest) => (.text text, rest)
  | _, text => readScalar text

/-- The path in a header, up to what follows its closing brackets. -/
def readHeader (text : List Char) : Option (Section × List Char) :=
  match text with
  | '[' :: rest =>
    match readPath longestPath rest with
    | some (path, ']' :: ']' :: rest) => some ({ path, repeated := true, keys := [] }, rest)
    | _ => none
  | rest =>
    match readPath longestPath rest with
    | some (path, ']' :: rest) => some ({ path, repeated := false, keys := [] }, rest)
    | _ => none

/-- The keys before the first header, and the sections. -/
def readLines : Nat → List Char → Option (List (List Key × Node) × List Section)
  | 0, _ => none
  | fuel + 1, text =>
    match skipSpace text with
    | none => none
    | some [] => some ([], [])
    | some ('[' :: text) =>
      match readHeader text with
      | none => none
      | some (head, rest) =>
        match (afterLine? rest).bind (readLines fuel) with
        | none => none
        | some (keys, sections) => some ([], { head with keys } :: sections)
    | some text =>
      match readAssignment (some ∘ skipBlanks) (readValue greatestDepth) text with
      | none => none
      | some (key, rest) =>
        match (afterLine? rest).bind (readLines fuel) with
        | none => none
        | some (keys, sections) => some (key :: keys, sections)

/-- A byte order mark may stand at the very beginning. -/
def dropMark : List Char → List Char
  | '\uFEFF' :: rest => rest
  | text => text

def parse? (text : List Char) : Option Entries :=
  (readLines (text.length + 1) (dropMark text)).bind fun (keys, sections) => tree keys sections

end Toml
end ResidualForm
