import ServerOperator.Schema.Definition
import ServerOperator.Settings
import ServerOperator.Text.Quoted

/-!
The command line: what the programs print and how they exit. The operator prints the definition of
its records when asked to, and otherwise needs its settings and a cluster.
-/

namespace ServerOperator

structure Exit where
  code : UInt32
  output : String
  error : String
deriving DecidableEq, Repr

inductive StartError where
  | settings (error : SettingsError)
  | noCluster (configurationPath : String)
deriving DecidableEq, Repr

def StartError.message : StartError → String
  | settings error => error.message
  | noCluster path =>
      "Failed to infer configuration: failed to infer config: in-cluster: (" ++
        "failed to read an incluster environment variable: environment variable not found" ++
        "), kubeconfig: (failed to read kubeconfig from \x27" ++ Text.quoted path ++
        "\x27: No such file or directory (os error 2))"

namespace Exit

def printing (output : String) : Exit :=
  ⟨0, output, ""⟩

def failing (error : StartError) : Exit :=
  ⟨1, "", "Error: " ++ error.message⟩

end Exit

namespace CommandLine

/-- The argument that asks for the definition. It counts wherever it stands. -/
def definitionFlag : String := "--generate-crds"

/-- The file that tells where the cluster is: the first that the environment names, or else the
usual one in the home directory. -/
def configurationPath (environment : Settings.Environment) : String :=
  let named := ((environment.lookup "KUBECONFIG").getD "").splitOn ":"
  match named.find? fun path => path ≠ "" with
  | some path => path
  | none => (environment.lookup "HOME").getD "" ++ "/.kube/config"

/-- What keeps the operator from starting where no cluster can be found. The settings are read
before the cluster is looked for. -/
def startError (environment : Settings.Environment) : StartError :=
  match Settings.ofEnvironment environment with
  | .error error => .settings error
  | .ok _ => .noCluster (configurationPath environment)

def operator (arguments : List String) (environment : Settings.Environment) : Exit :=
  if arguments.contains definitionFlag then .printing Server.definitionText
  else .failing (startError environment)

/-- The program that prints the definition, whatever its arguments are. -/
def definitionPrinter : Exit :=
  .printing Server.definitionText

end CommandLine

end ServerOperator
