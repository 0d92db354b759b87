import ServerOperator.Resource.Metadata
import ServerOperator.Resource.Port

/-!
Routes: they lead requests from outside the cluster to a service. Each router that takes a route up
reports in the route's status whether it admits it.
-/

namespace ServerOperator

open Json

structure RouteTarget where
  kind : String
  name : String
  weight : Option Int32
deriving DecidableEq, Inhabited

namespace RouteTarget

def decoder : Decoder RouteTarget :=
  .record true "RouteTargetReference" default [
    .required "kind" .string fun value target => { target with kind := value },
    .required "name" .string fun value target => { target with name := value },
    .defaulted "weight" (.nullable .int32) fun value target => { target with weight := value }]

def toJson (target : RouteTarget) : Json :=
  object (
    [("kind", string target.kind), ("name", string target.name)] ++
    optionalMember "weight" (fun value => integer value.toInt) target.weight)

end RouteTarget

structure RoutePort where
  targetPort : PortTarget
deriving DecidableEq, Inhabited

namespace RoutePort

def decoder : Decoder RoutePort :=
  .record true "RoutePort" default [
    .required "targetPort" PortTarget.decoder fun value port => { port with targetPort := value }]

def toJson (port : RoutePort) : Json :=
  object [("targetPort", port.targetPort.toJson)]

end RoutePort

structure RouteSpec where
  host : Option String
  path : Option String
  target : RouteTarget
  port : Option RoutePort
deriving DecidableEq, Inhabited

namespace RouteSpec

def decoder : Decoder RouteSpec :=
  .record true "RouteSpec" default [
    .defaulted "host" (.nullable .string) fun value spec => { spec with host := value },
    .defaulted "path" (.nullable .string) fun value spec => { spec with path := value },
    .required "to" RouteTarget.decoder fun value spec => { spec with target := value },
    .defaulted "port" (.nullable RoutePort.decoder) fun value spec => { spec with port := value }]

def toJson (spec : RouteSpec) : Json :=
  object (
    optionalMember "host" string spec.host ++
    optionalMember "path" string spec.path ++
    optionalMember "port" RoutePort.toJson spec.port ++
    [("to", spec.target.toJson)])

end RouteSpec

structure RouteCondition where
  type : String
  status : String
  reason : Option String
  message : Option String
deriving DecidableEq, Inhabited

namespace RouteCondition

def decoder : Decoder RouteCondition :=
  .record true "RouteIngressCondition" default [
    .required "type" .string fun value condition => { condition with type := value },
    .required "status" .string fun value condition => { condition with status := value },
    .defaulted "reason" (.nullable .string) fun value condition =>
      { condition with reason := value },
    .defaulted "message" (.nullable .string) fun value condition =>
      { condition with message := value }]

def toJson (condition : RouteCondition) : Json :=
  object (
    optionalMember "message" string condition.message ++
    optionalMember "reason" string condition.reason ++
    [("status", string condition.status), ("type", string condition.type)])

def isAdmission (condition : RouteCondition) : Bool :=
  condition.type = "Admitted" && condition.status = "True"

end RouteCondition

structure RouteIngress where
  host : Option String
  routerName : Option String
  conditions : List RouteCondition
deriving DecidableEq, Inhabited

namespace RouteIngress

def decoder : Decoder RouteIngress :=
  .record true "RouteIngress" default [
    .defaulted "host" (.nullable .string) fun value ingress => { ingress with host := value },
    .defaulted "routerName" (.nullable .string) fun value ingress =>
      { ingress with routerName := value },
    .defaulted "conditions" (.list RouteCondition.decoder) fun value ingress =>
      { ingress with conditions := value }]

def toJson (ingress : RouteIngress) : Json :=
  object (
    listMember "conditions" RouteCondition.toJson ingress.conditions ++
    optionalMember "host" string ingress.host ++
    optionalMember "routerName" string ingress.routerName)

end RouteIngress

structure RouteStatus where
  ingress : List RouteIngress
deriving DecidableEq, Inhabited

namespace RouteStatus

def decoder : Decoder RouteStatus :=
  .record true "RouteStatus" ⟨[]⟩ [
    .defaulted "ingress" (.list RouteIngress.decoder) fun value status =>
      { status with ingress := value }]

def toJson (status : RouteStatus) : Json :=
  object (listMember "ingress" RouteIngress.toJson status.ingress)

end RouteStatus

structure Route where
  metadata : Metadata
  spec : RouteSpec
  status : Option RouteStatus
deriving DecidableEq, Inhabited

namespace Route

def decoder : Decoder Route :=
  .record true "Route" ⟨.empty, default, none⟩ [
    .required "metadata" Metadata.decoder fun value route => { route with metadata := value },
    .required "spec" RouteSpec.decoder fun value route => { route with spec := value },
    .optional "status" (.nullable RouteStatus.decoder) fun value route =>
      { route with status := value }]

def toJson (route : Route) : Json :=
  object (
    [("apiVersion", string "route.openshift.io/v1"), ("kind", string "Route"),
      ("metadata", route.metadata.toJson), ("spec", route.spec.toJson)] ++
    optionalMember "status" RouteStatus.toJson route.status)

/-- At least one router has admitted the route. -/
def isAdmitted (route : Route) : Bool :=
  route.status.any fun status =>
    status.ingress.any fun ingress => ingress.conditions.any RouteCondition.isAdmission

end Route

end ServerOperator
