import ResidualForm.Service

/-!
# ResidualForm.Sample

Exercises: a random function, one of its arguments, and the two residuals to start from.
-/

namespace ResidualForm

/-- The residuals of a function of five arguments have the greatest length a form allows. -/
def mostSampleArguments : Nat := 5

/-- The greatest number of arguments whose residuals fit into `length` characters. -/
def argumentsForLength (length : Nat) : Nat :=
  (max length 1).log2 + 1

/-- The random part of an exercise: a value for each row, and a choice among the arguments. -/
structure Draw where
  value : Nat → Bool
  choice : Nat

namespace Draw

def ofSeed (seed : Nat) : Draw :=
  let (bits, next) := randNat (mkStdGen seed) 0 0xFFFFFFFF
  { value := bits.testBit
    choice := (randNat next 0 0xFFFFFFFF).1 }

end Draw

structure Sample where
  function : TruthVector
  argument : Nat
  zero : List Bool
  one : List Bool
  deriving DecidableEq, Repr

namespace Sample

/-- A function of one to five arguments with the values drawn. -/
def randomFunction (arguments : Nat) (draw : Draw) : Except VectorError TruthVector :=
  let n := min (max arguments 1) mostSampleArguments
  TruthVector.ofRows ((List.range (rowCount n)).map draw.value)

def ofDraw (arguments : Nat) (draw : Draw) : Except VectorError Sample := do
  let function ← randomFunction arguments draw
  let argument := draw.choice % function.arguments
  let zero ← function.residual argument false
  let one ← function.residual argument true
  return { function, argument, zero, one }

def request (s : Sample) : Request :=
  { zero := s.zero.map symbol
    one := s.one.map symbol
    argument := (Nat.repr s.argument).toList }

def caption (s : Sample) : String :=
  s!"Sample: f = {String.ofList s.function.digits}, argument {s.argument}"

end Sample
end ResidualForm
