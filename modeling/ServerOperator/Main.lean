import ServerOperator.Program.CommandLine

/-!
The operator as a program.
-/

namespace ServerOperator

/-- The variables that the operator looks at. -/
def CommandLine.variableNames : List String :=
  ["HTTP_PORT", "MCP_OPERATOR_WATCH_NAMESPACE", "MCP_OPERATOR_WORKERS",
    "MCP_OPERATOR_ERROR_REQUEUE_SECS", "KUBECONFIG", "HOME"]

end ServerOperator

open ServerOperator in
def main (arguments : List String) : IO UInt32 := do
  let environment ← CommandLine.variableNames.filterMapM fun name => do
    return (← IO.getEnv name).map fun value => (name, value)
  let exit := CommandLine.operator arguments environment
  IO.print exit.output
  unless exit.error.isEmpty do IO.eprintln exit.error
  return exit.code
