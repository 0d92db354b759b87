import ServerOperator.Decoder.Record

/-!
Conditions: what a status says about one aspect of a server.
-/

namespace ServerOperator

open Json

inductive ConditionType where
  | deploymentAvailable
  | serviceAvailable
  | routeAvailable
  | available
deriving DecidableEq, Repr, Inhabited

namespace ConditionType

def name : ConditionType → String
  | deploymentAvailable => "DeploymentAvailable"
  | serviceAvailable => "ServiceAvailable"
  | routeAvailable => "RouteAvailable"
  | available => "Available"

def all : List ConditionType :=
  [deploymentAvailable, serviceAvailable, routeAvailable, available]

def decoder : Decoder ConditionType :=
  .choice (all.map fun type => (type.name, type))

end ConditionType

inductive ConditionStatus where
  | true
  | false
  | unknown
deriving DecidableEq, Repr, Inhabited

namespace ConditionStatus

def name : ConditionStatus → String
  | true => "True"
  | false => "False"
  | unknown => "Unknown"

def all : List ConditionStatus :=
  [true, false, unknown]

def decoder : Decoder ConditionStatus :=
  .choice (all.map fun status => (status.name, status))

end ConditionStatus

/-- `lastTransitionTime` tells when the status last changed. -/
structure Condition where
  type : ConditionType
  status : ConditionStatus
  reason : String
  message : String
  lastTransitionTime : Option String
deriving DecidableEq, Repr, Inhabited

namespace Condition

def decoder : Decoder Condition :=
  .record true "Condition" default [
    .required "type" ConditionType.decoder fun value condition => { condition with type := value },
    .required "status" ConditionStatus.decoder fun value condition =>
      { condition with status := value },
    .required "reason" .string fun value condition => { condition with reason := value },
    .required "message" .string fun value condition => { condition with message := value },
    .optional "lastTransitionTime" (.nullable .string) fun value condition =>
      { condition with lastTransitionTime := value }]

def toJson (condition : Condition) : Json :=
  object (
    optionalMember "lastTransitionTime" string condition.lastTransitionTime ++
    [("message", string condition.message), ("reason", string condition.reason),
      ("status", string condition.status.name), ("type", string condition.type.name)])

def isTrue (condition : Condition) : Bool :=
  condition.status = .true

end Condition

end ServerOperator
