import ResidualForm.Session

/-!
# ResidualForm.Config

The settings a user can keep in a file, and the session that starts from them. Every setting may be
missing.
-/

namespace ResidualForm

structure FormChoices where
  residualLimit : Option Nat := none
  policy : Option Policy := none
  boundArgument : Option Bool := none
  deriving DecidableEq, Repr

structure SampleChoices where
  arguments : Option Nat := none
  deriving DecidableEq, Repr

structure Config where
  app : Option DisplayOptions := none
  form : Option FormChoices := none
  sample : Option SampleChoices := none
  deriving DecidableEq, Repr

def defaultSampleArguments : Nat := 3

namespace Config

def formSettings (c : Config) : FormSettings :=
  match c.form with
  | none => {}
  | some choices =>
    FormSettings.clamp
      { residualLimit := choices.residualLimit.getD greatestResidualLength
        policy := choices.policy.getD .both
        boundArgument := choices.boundArgument.getD true }

def displayOptions (c : Config) : DisplayOptions :=
  c.app.getD {}

def sampleArguments (c : Config) : Nat :=
  (c.sample.bind SampleChoices.arguments).getD defaultSampleArguments

/-- Where the file is, below a home directory. -/
def path (home : String) : String :=
  if home.isEmpty || home.endsWith "/" then home ++ ".cofactor/config.toml"
  else home ++ "/.cofactor/config.toml"

def policyVariable : String := "COFACTOR_CONSISTENCY"

/-- The policy that the value of the variable names; other values count for nothing. -/
def policyOverride (value : Option String) : Option Policy :=
  value.bind fun value => Policy.parse? value.toList

end Config

/-- A session with the settings of a file, and a policy that overrides the file's. -/
def Session.ofConfig (config : Option Config) (override : Option Policy) (draws : Nat → Draw) :
    Session :=
  let config := config.getD {}
  let settings := config.formSettings
  .start { settings with policy := override.getD settings.policy } config.displayOptions
    config.sampleArguments draws

end ResidualForm
