import ServerOperator.Resource.Metadata
import ServerOperator.Resource.Port

/-!
Services: they give the pods of a server one address inside the cluster. Every part may be missing
from a document and then takes its default.
-/

namespace ServerOperator

open Json

structure ServicePort where
  name : Option String
  port : Int32
  protocol : Option String
  targetPort : Option PortTarget
deriving DecidableEq, Inhabited

namespace ServicePort

def decoder : Decoder ServicePort :=
  .record false "ServicePort" default [
    .standard "name" .string fun value port => { port with name := value },
    .standard "port" .int32 fun value port => { port with port := value.getD 0 },
    .standard "protocol" .string fun value port => { port with protocol := value },
    .standard "targetPort" PortTarget.decoder fun value port => { port with targetPort := value }]

def toJson (port : ServicePort) : Json :=
  object (
    optionalMember "name" string port.name ++
    [("port", integer port.port.toInt)] ++
    optionalMember "protocol" string port.protocol ++
    optionalMember "targetPort" PortTarget.toJson port.targetPort)

end ServicePort

structure ServiceSpec where
  ports : Option (List ServicePort)
  selector : Option Labels
  type : Option String
deriving DecidableEq, Inhabited

namespace ServiceSpec

def decoder : Decoder ServiceSpec :=
  .record false "ServiceSpec" ⟨none, none, none⟩ [
    .standard "ports" (.list ServicePort.decoder) fun value spec => { spec with ports := value },
    .standard "selector" Labels.decoder fun value spec => { spec with selector := value },
    .standard "type" .string fun value spec => { spec with type := value }]

def toJson (spec : ServiceSpec) : Json :=
  object (
    optionalMember "ports" (fun ports => array (ports.map ServicePort.toJson)) spec.ports ++
    optionalMember "selector" Labels.toJson spec.selector ++
    optionalMember "type" string spec.type)

end ServiceSpec

structure ServiceCondition where
  lastTransitionTime : String
  message : String
  reason : String
  status : String
  type : String
deriving DecidableEq, Inhabited

namespace ServiceCondition

/-- The point in time of a condition that names none. -/
def epoch : String := "1970-01-01T00:00:00Z"

def decoder : Decoder ServiceCondition :=
  .record false "Condition" ⟨epoch, "", "", "", ""⟩ [
    .standard "lastTransitionTime" Metadata.instant fun value condition =>
      { condition with lastTransitionTime := value.getD epoch },
    .standard "message" .string fun value condition => { condition with message := value.getD "" },
    .standard "reason" .string fun value condition => { condition with reason := value.getD "" },
    .standard "status" .string fun value condition => { condition with status := value.getD "" },
    .standard "type" .string fun value condition => { condition with type := value.getD "" }]

def toJson (condition : ServiceCondition) : Json :=
  object [("lastTransitionTime", string condition.lastTransitionTime),
    ("message", string condition.message), ("reason", string condition.reason),
    ("status", string condition.status), ("type", string condition.type)]

end ServiceCondition

structure ServiceStatus where
  conditions : Option (List ServiceCondition)
deriving DecidableEq, Inhabited

namespace ServiceStatus

def decoder : Decoder ServiceStatus :=
  .record false "ServiceStatus" ⟨none⟩ [
    .standard "conditions" (.list ServiceCondition.decoder) fun value status =>
      { status with conditions := value }]

def toJson (status : ServiceStatus) : Json :=
  object (optionalMember "conditions" (fun conditions =>
    array (conditions.map ServiceCondition.toJson)) status.conditions)

end ServiceStatus

structure Service where
  metadata : Metadata
  spec : Option ServiceSpec
  status : Option ServiceStatus
deriving DecidableEq, Inhabited

namespace Service

def decoder : Decoder Service :=
  .record false "Service" ⟨.empty, none, none⟩ [
    .fixed "apiVersion" "v1",
    .fixed "kind" "Service",
    .standard "metadata" Metadata.decoder fun value service =>
      { service with metadata := value.getD .empty },
    .standard "spec" ServiceSpec.decoder fun value service => { service with spec := value },
    .standard "status" ServiceStatus.decoder fun value service => { service with status := value }]

def toJson (service : Service) : Json :=
  object (
    [("apiVersion", string "v1"), ("kind", string "Service"),
      ("metadata", service.metadata.toJson)] ++
    optionalMember "spec" ServiceSpec.toJson service.spec ++
    optionalMember "status" ServiceStatus.toJson service.status)

end Service

end ServerOperator
