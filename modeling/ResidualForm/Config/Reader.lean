import ResidualForm.Config
import ResidualForm.Text.Utf8
import ResidualForm.Toml.Document

/-!
# ResidualForm.Config.Reader

Reads the settings file. A group of settings is a table, or an array that lists them in order.
Keys without a meaning here are passed over if their numbers can be read; what an array holds beyond
its settings is not looked at.
-/

namespace ResidualForm
namespace Config

open Toml

mutual

/-- Whether every number in a value can be read. -/
def isReadable : Node → Bool
  | .unreadable => false
  | .array items => areReadable items
  | .tables items => areReadable items
  | .table _ entries => haveReadable entries
  | _ => true

def areReadable : List Node → Bool
  | [] => true
  | item :: rest => isReadable item && areReadable rest

def haveReadable : List (Key × Node) → Bool
  | [] => true
  | (_, item) :: rest => isReadable item && haveReadable rest

end

/-- Whether everything in a table but the keys named can be passed over. -/
def othersReadable (known : List String) (entries : Entries) : Bool :=
  entries.all fun (key, node) => known.contains (String.ofList key) || isReadable node

/-- A setting that may be missing. -/
def optional {α : Type} (read : Node → Option α) (key : String) (entries : Entries) :
    Option (Option α) :=
  match entries.find? key.toList with
  | none => some none
  | some node => (read node).map some

def readBool : Node → Option Bool
  | .boolean value => some value
  | _ => none

def readNat (bound : Nat) : Node → Option Nat
  | .integer value => if 0 ≤ value && value < Int.ofNat bound then some value.toNat else none
  | _ => none

def policyNamed? (name : List Char) : Option Policy :=
  [Policy.both, Policy.zeroOnly].find? fun policy => policy.name.toList == name

def isEmptyGroup : Node → Bool
  | .array items => items.isEmpty
  | .table _ entries => entries.isEmpty
  | _ => false

/-- A policy is a name, or a table whose only key is the name and holds nothing. -/
def readPolicy : Node → Option Policy
  | .text name => policyNamed? name
  | .table _ [(name, node)] => if isEmptyGroup node then policyNamed? name else none
  | _ => none

def readApp : Node → Option DisplayOptions
  | .table _ entries => do
    let asciiOnly ← optional readBool "ascii_only" entries
    let highContrast ← optional readBool "high_contrast" entries
    if othersReadable ["ascii_only", "high_contrast"] entries then
      some { asciiOnly := asciiOnly.getD false, highContrast := highContrast.getD false }
    else none
  | .array [] => some {}
  | .array [asciiOnly] => do some { asciiOnly := ← readBool asciiOnly }
  | .array (asciiOnly :: highContrast :: _) => do
    some { asciiOnly := ← readBool asciiOnly, highContrast := ← readBool highContrast }
  | .dateTime => some {}
  | _ => none

def readForm : Node → Option FormChoices
  | .table _ entries => do
    let residualLimit ← optional (readNat 0x10000000000000000) "max_residue_len" entries
    let policy ← optional readPolicy "consistency" entries
    let boundArgument ← optional readBool "enforce_index_bound" entries
    if othersReadable ["max_residue_len", "consistency", "enforce_index_bound"] entries then
      some { residualLimit, policy, boundArgument }
    else none
  | .array (residualLimit :: policy :: boundArgument :: _) => do
    some
      { residualLimit := some (← readNat 0x10000000000000000 residualLimit)
        policy := some (← readPolicy policy)
        boundArgument := some (← readBool boundArgument) }
  | .dateTime => some {}
  | _ => none

def readSample : Node → Option SampleChoices
  | .table _ entries => do
    let arguments ← optional (readNat 0x100000000) "arguments" entries
    if othersReadable ["arguments"] entries then some { arguments } else none
  | .array (arguments :: _) => do some { arguments := some (← readNat 0x100000000 arguments) }
  | .dateTime => some {}
  | _ => none

def ofEntries (entries : Entries) : Option Config := do
  let app ← optional readApp "app" entries
  let form ← optional readForm "form" entries
  let sample ← optional readSample "sample" entries
  if othersReadable ["app", "form", "sample"] entries then some { app, form, sample }
  else none

/-- What stands at the path of the settings file. -/
inductive Source where
  | missing
  | directory
  | file (content : List UInt8)
  deriving DecidableEq, Repr

inductive LoadError where
  | isDirectory
  | notText
  | malformed
  deriving DecidableEq, Repr

def LoadError.message : LoadError → String
  | .isDirectory => "Is a directory (os error 21)"
  | .notText => "stream did not contain valid UTF-8"
  | .malformed => "malformed settings"

/-- A missing file is no error; a file with one mistake in it is not used at all. -/
def load : Source → Except LoadError (Option Config)
  | .missing => .ok none
  | .directory => .error .isDirectory
  | .file content =>
    match Text.decodeText? content with
    | none => .error .notText
    | some text =>
      match (parse? text).bind ofEntries with
      | none => .error .malformed
      | some config => .ok (some config)

end Config
end ResidualForm
