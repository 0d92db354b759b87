import ServerOperator.Child.Desired
import ServerOperator.Child.Observed
import ServerOperator.Pass.Call
import ServerOperator.Status.Overall

/-!
One pass over a server: its children are created where they are missing, then read, and the status
is written if that changed it.
-/

namespace ServerOperator

/-- What is to happen with a server after a pass: nothing until something changes, or another pass
after a delay in milliseconds. -/
inductive Action where
  | awaitChange
  | requeue (milliseconds : Nat)
deriving DecidableEq, Repr, Inhabited

inductive EnsureOutcome where
  | created
  | alreadyExists
deriving DecidableEq, Repr

namespace Pass

/-- The delay before a server that is not available is looked at again. -/
def notReadyRequeue : Nat := 15000

def fetch (key : Key) : Pass (Option Server) := do
  match ← call (.fetch key) with
  | .ok server => return server
  | .error source => failed (.fetch key source)

/-- Creates a child unless there is one, which is left as it is whatever it looks like. -/
def ensure (blueprint : Blueprint) (kind : ChildKind) : Pass EnsureOutcome := do
  match ← call (.create kind (blueprint.child kind)) with
  | .ok _ => return .created
  | .error source =>
      if source.isAlreadyExists then return .alreadyExists
      else failed (.create kind blueprint.key source)

/-- Reads a child. A failing read is an observation too. -/
def evaluate (key : Key) (kind : ChildKind) : Pass Condition := do
  return kind.observed key.name (← call (.get kind key))

def writeStatus (key : Key) (status : ServerStatus) : Pass Unit := do
  match ← call (.writeStatus key status) with
  | .ok () => return ()
  | .error source => failed (.status key source)

def ensureAll (blueprint : Blueprint) : Pass Unit := do
  let _ ← ensure blueprint .deployment
  let _ ← ensure blueprint .service
  let _ ← ensure blueprint .route

def evaluateAll (key : Key) : Pass (List Condition) := do
  let deployment ← evaluate key .deployment
  let service ← evaluate key .service
  let route ← evaluate key .route
  return [deployment, service, route]

/-- Writes a status unless it is the one that was fetched. -/
def persist (key : Key) (fetched : Option ServerStatus) (status : ServerStatus) : Pass Unit :=
  if some status = fetched then return () else writeStatus key status

/-- The action by the verdict of a pass: a server that is not available is looked at again. -/
def actionOf (overall : Condition) : Action :=
  if overall.isTrue then .awaitChange else .requeue notReadyRequeue

/-- Merges what was observed into the status that was fetched, and decides by the outcome. -/
def conclude (now : String) (key : Key) (fetched : Option ServerStatus)
    (observed : List Condition) : Pass Action := do
  let report := Conditions.report observed now (fetched.getD .empty).conditions
  persist key fetched ⟨report.conditions⟩
  return actionOf report.overall

/-- The pass over a record that was found. -/
def tend (now : String) (key : Key) (server : Server) : Pass Action := do
  let some owner := server.controllerReference? | failed (.ownerReference key)
  ensureAll ⟨key, some owner, server.spec⟩
  let observed ← evaluateAll key
  conclude now key server.status observed

/-- The whole pass, at the clock reading `now`. -/
def reconcile (now : String) (key : Key) : Pass Action := do
  let some server ← fetch key | return .awaitChange
  tend now key server

end Pass

/-- What is to happen after a pass that failed. One that was cancelled is not tried again. -/
def PassError.action (requeueMilliseconds : Nat) : PassError → Action
  | cancelled => .awaitChange
  | _ => .requeue requeueMilliseconds

/-- What is to happen after a pass, however it ended. -/
def Action.after (requeueMilliseconds : Nat) : Except PassError Action → Action
  | .ok action => action
  | .error error => error.action requeueMilliseconds

end ServerOperator
