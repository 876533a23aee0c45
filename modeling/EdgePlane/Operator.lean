import EdgePlane.Log
import EdgePlane.Settings
import EdgePlane.Text.Quoted

/-!
# The start of the operator

The operator reads its settings, writes them to its log, and looks for a cluster. Without a cluster it
ends.
-/

namespace EdgePlane.Operator

open Text

/-- Why the operator ended. -/
inductive StartError
  | settings (e : SettingsError)
  | noCluster
  deriving Repr, DecidableEq

/-- The error as it is shown at the end. -/
def StartError.render : StartError → String
  | .settings e => "Error: InvalidConfig(" ++ quoted e.message ++ ")"
  | .noCluster => "Error: Kube(InferConfig(..))"

/-- What an operator wrote until it ended: its log, and why it ended. -/
structure Run where
  log : List LogLine
  message : String
  exitCode : UInt8
  deriving Repr, DecidableEq

/-- The exit code of an operator that ended with an error. -/
def errorCode : UInt8 := 1

/-- The exit code of an operator that broke off. -/
def crashCode : UInt8 := 101

/-- The part of the program that writes the first lines. -/
def target : String := "ecn_operator"

/-- A line of the operator itself. -/
def line (text : String) : LogLine := ⟨.info, target, text⟩

/-- The lines that show the settings. -/
def settingsLines (s : Settings) : List LogLine :=
  [line "Configuration:",
    line ("  Namespace: " ++ s.namespaceName.getD "all namespaces"),
    line ("  Bootstrap: " ++ decimal s.retry.attempts ++ " attempts, " ++
      decimal s.retry.interval.milliseconds ++ "ms apart"),
    line ("  HTTP timeout: " ++ decimal s.httpTimeout.seconds ++ "s"),
    line ("  Requeue delay: " ++ decimal s.requeueDelay.seconds ++ "s"),
    line ("  Default images: " ++ s.images.registry ++ "/<component>:" ++ s.images.tag)]

/-- The variable with the filter of the log. -/
def filterVariable : String := "RUST_LOG"

/-- The filter of an environment. One that cannot be read counts as absent, but there is none if
reading it breaks off inside a character. -/
def filter? (environment : String → Option String) : Option LogFilter :=
  match (environment filterVariable).map LogFilter.parse with
  | some (.ok filter) => some filter
  | some (.error .splitsCharacter) => none
  | some (.error .malformed) | none => some (.upTo .info)

/-- What an operator writes that finds no cluster, and why it ends. -/
def start (environment : String → Option String) : List LogLine × StartError :=
  let first := line "Starting ECN operator"
  match Settings.load environment with
  | .error e => ([first], .settings e)
  | .ok s =>
    (first :: settingsLines s ++
      [⟨.info, target ++ "::controller", "Initializing ECN operator"⟩], .noCluster)

/-- Runs an operator that finds no cluster. Without a filter it breaks off before it writes anything. -/
def run (environment : String → Option String) : Run :=
  match filter? environment with
  | none => ⟨[], "", crashCode⟩
  | some filter =>
    let (lines, error) := start environment
    ⟨lines.filter filter.accepts, error.render, errorCode⟩

end EdgePlane.Operator
