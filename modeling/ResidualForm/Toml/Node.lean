/-!
# ResidualForm.Toml.Node

The tree of a TOML document, and the rules on where a key or a table may still be added. A table
remembers how it came about, because that decides who may extend it.
-/

namespace ResidualForm
namespace Toml

abbrev Key := List Char

inductive Origin where
  /-- Opened by a header of its own. -/
  | header
  /-- Named on the way to the table of a header. -/
  | implied
  /-- Named on the way to a dotted key. -/
  | dotted
  /-- Written out between braces, and closed for good. -/
  | inline
  deriving DecidableEq, Repr

inductive Node where
  | text (content : List Char)
  | integer (value : Int)
  | float
  /-- A number that no machine type holds, or that its digits do not make. It may stand where
  nobody looks at it. -/
  | unreadable
  | boolean (value : Bool)
  | dateTime
  | array (items : List Node)
  /-- The tables of headers in double brackets. -/
  | tables (items : List Node)
  | table (origin : Origin) (entries : List (Key × Node))

abbrev Entries := List (Key × Node)

namespace Entries

def find? (entries : Entries) (key : Key) : Option Node :=
  (List.find? (fun entry => entry.1 == key) entries).map Prod.snd

def set (entries : Entries) (key : Key) (node : Node) : Entries :=
  match entries with
  | [] => [(key, node)]
  | entry :: rest => if entry.1 == key then (key, node) :: rest else entry :: set rest key node

/-- Adds a key by its dotted path. The tables on the way must not have a header or braces of their
own. Of several tables under one name the last one counts; it does have a header, so a key can go
into a table below it but not into itself (`direct`). -/
def assign (direct : Bool) : List Key → Node → Entries → Option Entries
  | [], _, _ => none
  | [key], node, entries =>
    if direct && (entries.find? key).isNone then some (entries ++ [(key, node)]) else none
  | key :: path, node, entries =>
    match entries.find? key with
    | none => (assign true path node []).map fun inner => entries.set key (.table .dotted inner)
    | some (.table .dotted inner) =>
      (assign true path node inner).map fun inner => entries.set key (.table .dotted inner)
    | some (.table .implied inner) =>
      (assign true path node inner).map fun inner => entries.set key (.table .implied inner)
    | some (.tables items) =>
      match items.getLast? with
      | some (.table origin inner) =>
        (assign false path node inner).map fun inner =>
          entries.set key (.tables (items.dropLast ++ [.table origin inner]))
      | _ => none
    | some _ => none

/-- Puts what `make` gives in the place that a header names. Tables on the way are made as needed,
and of several tables under one name the last one counts. -/
def place (make : Option Node → Option Node) : List Key → Entries → Option Entries
  | [], _ => none
  | [key], entries => (make (entries.find? key)).map (entries.set key)
  | key :: path, entries =>
    match entries.find? key with
    | none => (place make path []).map fun inner => entries.set key (.table .implied inner)
    | some (.table .inline _) => none
    | some (.table origin inner) =>
      (place make path inner).map fun inner => entries.set key (.table origin inner)
    | some (.tables items) =>
      match items.getLast? with
      | some (.table origin inner) =>
        (place make path inner).map fun inner =>
          entries.set key (.tables (items.dropLast ++ [.table origin inner]))
      | _ => none
    | some _ => none

def assignAll (entries : Entries) (keys : List (List Key × Node)) : Option Entries :=
  keys.foldlM (fun entries key => assign true key.1 key.2 entries) entries

end Entries

structure Section where
  path : List Key
  /-- Whether the header stands in double brackets. -/
  repeated : Bool
  keys : List (List Key × Node)

namespace Section

/-- The table of a header: a new one, or one that was only implied so far. In double brackets it is
always a new one, the last under its name. -/
def node (s : Section) : Option Node → Option Node
  | none =>
    (Entries.assignAll [] s.keys).map fun entries =>
      if s.repeated then .tables [.table .header entries] else .table .header entries
  | some (.table .implied entries) =>
    if s.repeated then none else (Entries.assignAll entries s.keys).map (.table .header)
  | some (.tables items) =>
    if s.repeated then
      (Entries.assignAll [] s.keys).map fun entries => .tables (items ++ [.table .header entries])
    else none
  | some _ => none

end Section

/-- The tree of the keys before the first header and of the sections after it. -/
def tree (keys : List (List Key × Node)) (sections : List Section) : Option Entries :=
  (Entries.assignAll [] keys).bind fun entries =>
    sections.foldlM (fun entries s => entries.place s.node s.path) entries

end Toml
end ResidualForm
