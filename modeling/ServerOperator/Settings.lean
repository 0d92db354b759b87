import ServerOperator.Text.Blank

/-!
The operator's settings, as the environment gives them.
-/

namespace ServerOperator

/-- A whole number below a bound: digits, with an optional plus sign before them. -/
def wholeNumber? (bound : Nat) (text : String) : Option Nat :=
  let digits := match text.toList with
    | '+' :: rest => rest
    | characters => characters
  if digits ≠ [] ∧ digits.all Char.isDigit then
    let value := digits.foldl (fun value digit => value * 10 + (digit.toNat - 48)) 0
    if value < bound then some value else none
  else none

structure Settings where
  httpPort : UInt16
  /-- The only namespace to watch; all of them if there is none. -/
  watchNamespace : Option String
  workers : UInt64
  /-- The delay before a pass that failed is tried again. -/
  errorRequeueSeconds : UInt64
deriving DecidableEq, Repr, Inhabited

/-- The variable whose text is no number of its size. -/
structure SettingsError where
  variableName : String
deriving DecidableEq, Repr

def SettingsError.message (error : SettingsError) : String :=
  "Failed to parse environment variable " ++ error.variableName

namespace Settings

def initial : Settings :=
  ⟨8081, none, 4, 60⟩

abbrev Environment := List (String × String)

def numberSetting (environment : Environment) (name : String) (bound : Nat) (convert : Nat → α)
    (otherwise : α) : Except SettingsError α :=
  match environment.lookup name with
  | none => .ok otherwise
  | some text =>
      match wholeNumber? bound text with
      | some value => .ok (convert value)
      | none => .error ⟨name⟩

/-- The first variable that cannot be read is the one reported. -/
def ofEnvironment (environment : Environment) : Except SettingsError Settings := do
  let httpPort ← numberSetting environment "HTTP_PORT" UInt16.size UInt16.ofNat initial.httpPort
  let workers ← numberSetting environment "MCP_OPERATOR_WORKERS" UInt64.size UInt64.ofNat
    initial.workers
  let errorRequeueSeconds ← numberSetting environment "MCP_OPERATOR_ERROR_REQUEUE_SECS" UInt64.size
    UInt64.ofNat initial.errorRequeueSeconds
  return {
    httpPort := httpPort
    watchNamespace := environment.lookup "MCP_OPERATOR_WATCH_NAMESPACE"
    workers := workers
    errorRequeueSeconds := errorRequeueSeconds }

/-- Counts and delays of zero become one, and a blank namespace none. -/
def normalized (settings : Settings) : Settings :=
  { settings with
    workers := max settings.workers 1
    errorRequeueSeconds := max settings.errorRequeueSeconds 1
    watchNamespace := settings.watchNamespace.filter fun namespaceName =>
      !Text.isBlank namespaceName }

/-- The number of passes that may run at once, as far as it can be told to the controller. -/
def concurrency (settings : Settings) : UInt16 :=
  UInt16.ofNat (min settings.workers.toNat 65535)

/-- The delay before a pass that failed is tried again, in milliseconds. -/
def errorRequeue (settings : Settings) : Nat :=
  1000 * settings.errorRequeueSeconds.toNat

def httpAddress (settings : Settings) : String :=
  "0.0.0.0:" ++ toString settings.httpPort

end Settings

end ServerOperator
