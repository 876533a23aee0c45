import EdgePlane.Duration
import EdgePlane.Image
import EdgePlane.Text.Blank
import EdgePlane.Text.Decimal

/-!
# Settings

The settings of the operator, read from variables of its environment. A variable that is blank counts
as absent, and an absent one has a standard value.
-/

namespace EdgePlane

open Text

/-- How often and how long to ask for an interface that is not serving yet. -/
structure RetryLimit where
  attempts : Nat
  interval : Duration
  deriving Repr, DecidableEq

/-- The limit that suits a controller that takes up to two minutes to start. -/
def RetryLimit.standard : RetryLimit := ⟨120, .ofSeconds 1⟩

/-- The settings of the operator. -/
structure Settings where
  /-- The namespace to watch; all of them if there is none. -/
  namespaceName : Option String
  retry : RetryLimit
  /-- The time that a call of the management interface may take. -/
  httpTimeout : Duration
  /-- The time to let something settle before the next pass. -/
  requeueDelay : Duration
  images : DefaultImages
  deriving Repr, DecidableEq

/-- Why settings are refused. -/
inductive SettingsError
  | notNumber (variableName raw : String) (cause : NumeralError)
  | tooManyAttempts (attempts : Nat)
  | noAttempts
  deriving Repr, DecidableEq

namespace Settings

/-- The settings of an empty environment. -/
def standard : Settings := ⟨none, .standard, .ofSeconds 10, .ofSeconds 5, .standard⟩

/-- The variable with the namespace to watch. -/
def namespaceVariable : String := "WATCH_NAMESPACE"

/-- The variable with the number of attempts. -/
def attemptsVariable : String := "ECN_BOOTSTRAP_ATTEMPTS"

/-- The variable with the time between attempts, in milliseconds. -/
def intervalVariable : String := "ECN_BOOTSTRAP_INTERVAL_MS"

/-- The variable with the time that a call may take, in seconds. -/
def timeoutVariable : String := "ECN_HTTP_TIMEOUT_SECS"

/-- The variable with the time to let something settle, in seconds. -/
def requeueVariable : String := "ECN_REQUEUE_SECS"

/-- The variable with the registry of the images that are not given. -/
def registryVariable : String := "ECN_IMAGE_REGISTRY"

/-- The variable with the tag of those images. -/
def tagVariable : String := "ECN_IMAGE_TAG"

end Settings

/-- The error as it is printed. -/
def SettingsError.message : SettingsError → String
  | .notNumber variableName raw cause =>
    variableName ++ " must be an integer (" ++ raw ++ "): " ++ cause.message
  | .tooManyAttempts attempts =>
    Settings.attemptsVariable ++ " out of range (" ++ decimal attempts ++ "): " ++
      NumeralError.tooLarge.message
  | .noAttempts => Settings.attemptsVariable ++ " must be at least 1"

namespace Settings

/-- The value of a variable that is not blank. -/
def given (environment : String → Option String) (variableName : String) : Option String :=
  (environment variableName).filter fun v => !allBlank v

/-- The number in a variable: one of 64 bits, with blanks around it set aside. -/
def number (environment : String → Option String) (variableName : String) :
    Except SettingsError (Option Nat) :=
  match given environment variableName with
  | none => .ok none
  | some raw =>
    match readNumeral (UInt64.size - 1) (trimChars raw.toList) with
    | .ok n => .ok (some n)
    | .error cause => .error (.notNumber variableName raw cause)

/-- The number of attempts: at least one, and one of 32 bits. -/
def attempts (environment : String → Option String) : Except SettingsError Nat := do
  match ← number environment attemptsVariable with
  | none => return standard.retry.attempts
  | some n =>
    if UInt32.size ≤ n then throw (.tooManyAttempts n)
    else if n = 0 then throw .noAttempts
    else return n

/-- The settings of an environment. -/
def load (environment : String → Option String) : Except SettingsError Settings := do
  let attempts ← attempts environment
  let interval ← number environment intervalVariable
  let timeout ← number environment timeoutVariable
  let requeue ← number environment requeueVariable
  return {
    namespaceName := given environment namespaceVariable
    retry := ⟨attempts, interval.elim standard.retry.interval Duration.ofMilliseconds⟩
    httpTimeout := timeout.elim standard.httpTimeout Duration.ofSeconds
    requeueDelay := requeue.elim standard.requeueDelay Duration.ofSeconds
    images := ⟨(given environment registryVariable).getD standard.images.registry,
      (given environment tagVariable).getD standard.images.tag⟩ }

end Settings

end EdgePlane
