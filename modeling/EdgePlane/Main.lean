import EdgePlane.ControlPlane.Definition
import EdgePlane.Json.Printer
import EdgePlane.Operator

/-!
# The command line

With the argument `crd` the program prints the definition of the control plane resource. Without it the
operator starts with the variables of its environment.
-/

namespace EdgePlane

/-- The variables that the operator reads. -/
def Operator.variableNames : List String :=
  [filterVariable, Settings.namespaceVariable, Settings.attemptsVariable, Settings.intervalVariable,
    Settings.timeoutVariable, Settings.requeueVariable, Settings.registryVariable,
    Settings.tagVariable]

/-- The values of the operator's variables that are set. -/
def readEnvironment : IO (Dict String String) := do
  let pairs ← Operator.variableNames.filterMapM fun name => do
    return (← IO.getEnv name).map (name, ·)
  return Dict.ofList pairs

/-- Starts the operator, which writes its log and then why it ended. -/
def runOperator : IO UInt32 := do
  let environment ← readEnvironment
  let run := Operator.run environment.get?
  for line in run.log do
    IO.println line.render
  unless run.message.isEmpty do
    IO.eprintln run.message
  return run.exitCode.toUInt32

end EdgePlane

/-- Prints the definition or starts the operator. -/
def main (args : List String) : IO UInt32 := do
  if args = ["crd"] then
    IO.println EdgePlane.ControlPlane.definition.render
    return 0
  else EdgePlane.runOperator
