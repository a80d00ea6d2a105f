import ResidualForm.Config.Reader
import ResidualForm.Screen.Frame
import ResidualForm.Terminal.Decoder
import ResidualForm.Terminal.Pump

/-!
# ResidualForm.Main

The command line: what is typed comes from standard input, and the picture it leads to is printed.
Settings come from the file in the home directory and from the environment.
-/

open ResidualForm

/-- All that is typed until the input ends. -/
partial def readTyped (input : IO.FS.Stream) (typed : List UInt8) : IO (List UInt8) := do
  let piece ← input.read 4096
  if piece.isEmpty then return typed
  readTyped input (typed ++ piece.data.toList)

/-- The settings file; one that cannot be read or used counts as missing. -/
def readConfig : IO (Option Config) := do
  match ← IO.getEnv "HOME" with
  | none => return none
  | some home =>
    try
      let content ← IO.FS.readBinFile (Config.path home)
      match Config.load (.file content.data.toList) with
      | .ok config => return config
      | .error _ => return none
    catch _ => return none

/-- A size in cells from the environment. -/
def readSize (name : String) (fallback : Nat) : IO Nat := do
  return ((← IO.getEnv name).bind fun text => Text.decimal? text.toList).getD fallback

def main : IO Unit := do
  let config ← readConfig
  let policy := Config.policyOverride (← IO.getEnv Config.policyVariable)
  let seed ← IO.rand 0 0xFFFFFFFF
  let session := Session.ofConfig config policy fun n => Draw.ofSeed (seed + n)
  let typed ← readTyped (← IO.getStdin) []
  let (_, events) := Terminal.decode [] typed
  let (session, _) := Terminal.runEvents session {} events
  let session := (session.answerAll Request.reconstruct).tick
  let frame := Screen.draw session (← readSize "COLUMNS" 80) (← readSize "LINES" 24)
  for row in frame.canvas.rows do
    IO.println (String.ofList (row.flatMap Screen.Cell.symbol))
