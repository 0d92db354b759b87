import ServerOperator.Resource.Metadata

/-!
Deployments: they keep the pods of a server running. Every part may be missing from a document and
then takes its default.
-/

namespace ServerOperator

open Json

structure ContainerPort where
  containerPort : Int32
  name : Option String
  protocol : Option String
deriving DecidableEq, Inhabited

namespace ContainerPort

def decoder : Decoder ContainerPort :=
  .record false "ContainerPort" default [
    .standard "containerPort" .int32 fun value port => { port with containerPort := value.getD 0 },
    .standard "name" .string fun value port => { port with name := value },
    .standard "protocol" .string fun value port => { port with protocol := value }]

def toJson (port : ContainerPort) : Json :=
  object (
    [("containerPort", integer port.containerPort.toInt)] ++
    optionalMember "name" string port.name ++
    optionalMember "protocol" string port.protocol)

end ContainerPort

structure Container where
  args : Option (List String)
  command : Option (List String)
  image : Option String
  name : String
  ports : Option (List ContainerPort)
deriving DecidableEq, Inhabited

namespace Container

def decoder : Decoder Container :=
  .record false "Container" default [
    .standard "args" (.list .string) fun value container => { container with args := value },
    .standard "command" (.list .string) fun value container =>
      { container with command := value },
    .standard "image" .string fun value container => { container with image := value },
    .standard "name" .string fun value container => { container with name := value.getD "" },
    .standard "ports" (.list ContainerPort.decoder) fun value container =>
      { container with ports := value }]

def toJson (container : Container) : Json :=
  object (
    optionalMember "args" strings container.args ++
    optionalMember "command" strings container.command ++
    optionalMember "image" string container.image ++
    [("name", string container.name)] ++
    optionalMember "ports" (fun ports => array (ports.map ContainerPort.toJson)) container.ports)

end Container

structure PodSpec where
  containers : List Container
deriving DecidableEq, Inhabited

namespace PodSpec

def decoder : Decoder PodSpec :=
  .record false "PodSpec" ⟨[]⟩ [
    .standard "containers" (.list Container.decoder) fun value spec =>
      { spec with containers := value.getD [] }]

def toJson (spec : PodSpec) : Json :=
  object [("containers", array (spec.containers.map Container.toJson))]

end PodSpec

structure PodTemplate where
  metadata : Option Metadata
  spec : Option PodSpec
deriving DecidableEq, Inhabited

namespace PodTemplate

def empty : PodTemplate := ⟨none, none⟩

def decoder : Decoder PodTemplate :=
  .record false "PodTemplateSpec" empty [
    .standard "metadata" Metadata.decoder fun value template =>
      { template with metadata := value },
    .standard "spec" PodSpec.decoder fun value template => { template with spec := value }]

def toJson (template : PodTemplate) : Json :=
  object (
    optionalMember "metadata" Metadata.toJson template.metadata ++
    optionalMember "spec" PodSpec.toJson template.spec)

end PodTemplate

/-- Which pods belong to a deployment: those that carry all the labels. -/
structure LabelSelector where
  matchLabels : Option Labels
deriving DecidableEq, Inhabited

namespace LabelSelector

def decoder : Decoder LabelSelector :=
  .record false "LabelSelector" ⟨none⟩ [
    .standard "matchLabels" Labels.decoder fun value selector =>
      { selector with matchLabels := value }]

def toJson (selector : LabelSelector) : Json :=
  object (optionalMember "matchLabels" Labels.toJson selector.matchLabels)

end LabelSelector

structure DeploymentSpec where
  replicas : Option Int32
  selector : LabelSelector
  template : PodTemplate
deriving DecidableEq, Inhabited

namespace DeploymentSpec

def decoder : Decoder DeploymentSpec :=
  .record false "DeploymentSpec" ⟨none, ⟨none⟩, .empty⟩ [
    .standard "replicas" .int32 fun value spec => { spec with replicas := value },
    .standard "selector" LabelSelector.decoder fun value spec =>
      { spec with selector := value.getD ⟨none⟩ },
    .standard "template" PodTemplate.decoder fun value spec =>
      { spec with template := value.getD .empty }]

def toJson (spec : DeploymentSpec) : Json :=
  object (
    optionalMember "replicas" (fun value => integer value.toInt) spec.replicas ++
    [("selector", spec.selector.toJson), ("template", spec.template.toJson)])

end DeploymentSpec

structure DeploymentCondition where
  lastTransitionTime : Option String
  message : Option String
  reason : Option String
  status : String
  type : String
deriving DecidableEq, Inhabited

namespace DeploymentCondition

def decoder : Decoder DeploymentCondition :=
  .record false "DeploymentCondition" default [
    .standard "lastTransitionTime" Metadata.instant fun value condition =>
      { condition with lastTransitionTime := value },
    .standard "message" .string fun value condition => { condition with message := value },
    .standard "reason" .string fun value condition => { condition with reason := value },
    .standard "status" .string fun value condition => { condition with status := value.getD "" },
    .standard "type" .string fun value condition => { condition with type := value.getD "" }]

def toJson (condition : DeploymentCondition) : Json :=
  object (
    optionalMember "lastTransitionTime" string condition.lastTransitionTime ++
    optionalMember "message" string condition.message ++
    optionalMember "reason" string condition.reason ++
    [("status", string condition.status), ("type", string condition.type)])

def isAvailability (condition : DeploymentCondition) : Bool :=
  condition.type = "Available" && condition.status = "True"

end DeploymentCondition

structure DeploymentStatus where
  availableReplicas : Option Int32
  conditions : Option (List DeploymentCondition)
  readyReplicas : Option Int32
deriving DecidableEq, Inhabited

namespace DeploymentStatus

def decoder : Decoder DeploymentStatus :=
  .record false "DeploymentStatus" ⟨none, none, none⟩ [
    .standard "availableReplicas" .int32 fun value status =>
      { status with availableReplicas := value },
    .standard "conditions" (.list DeploymentCondition.decoder) fun value status =>
      { status with conditions := value },
    .standard "readyReplicas" .int32 fun value status => { status with readyReplicas := value }]

def toJson (status : DeploymentStatus) : Json :=
  object (
    optionalMember "availableReplicas" (fun value => integer value.toInt)
      status.availableReplicas ++
    optionalMember "conditions" (fun conditions =>
      array (conditions.map DeploymentCondition.toJson)) status.conditions ++
    optionalMember "readyReplicas" (fun value => integer value.toInt) status.readyReplicas)

end DeploymentStatus

structure Deployment where
  metadata : Metadata
  spec : Option DeploymentSpec
  status : Option DeploymentStatus
deriving DecidableEq, Inhabited

namespace Deployment

def decoder : Decoder Deployment :=
  .record false "Deployment" ⟨.empty, none, none⟩ [
    .fixed "apiVersion" "apps/v1",
    .fixed "kind" "Deployment",
    .standard "metadata" Metadata.decoder fun value deployment =>
      { deployment with metadata := value.getD .empty },
    .standard "spec" DeploymentSpec.decoder fun value deployment =>
      { deployment with spec := value },
    .standard "status" DeploymentStatus.decoder fun value deployment =>
      { deployment with status := value }]

def toJson (deployment : Deployment) : Json :=
  object (
    [("apiVersion", string "apps/v1"), ("kind", string "Deployment"),
      ("metadata", deployment.metadata.toJson)] ++
    optionalMember "spec" DeploymentSpec.toJson deployment.spec ++
    optionalMember "status" DeploymentStatus.toJson deployment.status)

/-- Some condition of the status says that the deployment is available. -/
def isAvailable (deployment : Deployment) : Bool :=
  deployment.status.any fun status =>
    status.conditions.any fun conditions => conditions.any DeploymentCondition.isAvailability

end Deployment

end ServerOperator
