import ServerOperator.Child.Desired

/-!
# From the route to the container

The children of a server know each other by name only: by the name of the service, by the labels of
the pods and by the names of ports. Each such name that one child uses is one that the next bears, and
bears once, so that requests find their way. Nothing of this hangs on what the server is to run, and
of that in turn only what counts shows in the deployment.
-/

namespace ServerOperator

/-- Of the entries this one has the property, and no other has it. -/
def Sole (has : α → Prop) (entries : List α) (entry : α) : Prop :=
  ∃ earlier later, entries = earlier ++ entry :: later ∧ has entry ∧
    ∀ other ∈ earlier ++ later, ¬has other

theorem sole_singleton {has : α → Prop} {entry : α} (hentry : has entry) :
    Sole has [entry] entry :=
  ⟨[], [], rfl, hentry, List.forall_mem_nil _⟩

def Service.ports (service : Service) : List ServicePort :=
  (service.spec.bind ServiceSpec.ports).getD []

namespace Deployment

def containers (deployment : Deployment) : List Container :=
  ((deployment.spec.bind fun spec => spec.template.spec).map PodSpec.containers).getD []

/-- The labels that its pods carry. -/
def podLabels (deployment : Deployment) : Labels :=
  ((deployment.spec.bind fun spec => spec.template.metadata).bind Metadata.labels).getD []

end Deployment

/-- A route leads to a port of a service in its namespace: it names both, and no other port of the
service has that name. -/
structure Route.Reaches (route : Route) (service : Service) (port : ServicePort) : Prop where
  kind : route.spec.target.kind = "Service"
  name : some route.spec.target.name = service.metadata.name
  namespaceName : route.metadata.namespaceName = service.metadata.namespaceName
  port : ∃ name, route.spec.port = some ⟨.name name⟩ ∧
    Sole (fun other => other.name = some name) service.ports port

/-- A port of a service leads to a port of a container: it names it, and no other port of the
container has that name. -/
def ServicePort.Reaches (port : ServicePort) (container : Container) (target : ContainerPort) :
    Prop :=
  ∃ name, port.targetPort = some (.name name) ∧
    Sole (fun other => other.name = some name) (container.ports.getD []) target

/-- A service sends to the pods of a deployment in its namespace: the two select by the same labels,
and the pods carry them all. -/
structure Service.Selects (service : Service) (deployment : Deployment) : Prop where
  namespaceName : service.metadata.namespaceName = deployment.metadata.namespaceName
  labels : ∃ required, service.spec.bind ServiceSpec.selector = some required ∧ required ≠ [] ∧
    deployment.spec.bind (fun spec => spec.selector.matchLabels) = some required ∧
    ∀ label ∈ required, deployment.podLabels.lookup label.1 = some label.2

/-- Requests to the route get to the only container of the deployment. -/
structure LeadsThrough (route : Route) (service : Service) (deployment : Deployment)
    (container : Container) : Prop where
  selects : service.Selects deployment
  containers : deployment.containers = [container]
  ports : ∃ port target, route.Reaches service port ∧ port.Reaches container target

/-! ### What is run -/

/-- A replacement is used as it stands, unless it is missing or empty. -/
inductive Replaces : Option (List String) → List String → List String → Prop where
  | given {replacement otherwise : List String} (hgiven : replacement ≠ []) :
      Replaces (some replacement) otherwise replacement
  | missing {otherwise : List String} : Replaces none otherwise otherwise
  | empty {otherwise : List String} : Replaces (some []) otherwise otherwise

theorem replaces_effective (replacement : Option (List String)) (otherwise : List String) :
    Replaces replacement otherwise (effective replacement otherwise) := by
  match replacement with
  | none => exact .missing
  | some [] => exact .empty
  | some (first :: rest) => exact .given (List.cons_ne_nil first rest)

theorem Replaces.ne_nil {replacement : Option (List String)} {otherwise used : List String}
    (hreplaces : Replaces replacement otherwise used) (hotherwise : otherwise ≠ []) : used ≠ [] := by
  cases hreplaces with
  | given hgiven => exact hgiven
  | missing => exact hotherwise
  | empty => exact hotherwise

namespace Blueprint

variable (blueprint : Blueprint)

/-! ### The links -/

theorem containers_deployment : blueprint.deployment.containers = [blueprint.container] := rfl

theorem route_reaches :
    ∃ port, blueprint.route.Reaches blueprint.service port ∧
      port.targetPort = some (.name portName) :=
  ⟨_, ⟨rfl, rfl, rfl, portName, rfl, sole_singleton rfl⟩, rfl⟩

theorem servicePort_reaches {port : ServicePort} (hport : port.targetPort = some (.name portName)) :
    ∃ target, port.Reaches blueprint.container target :=
  ⟨_, portName, hport, sole_singleton rfl⟩

theorem service_selects : blueprint.service.Selects blueprint.deployment := by
  refine ⟨rfl, blueprint.labels, rfl, List.cons_ne_nil _ _, rfl, ?_⟩
  intro label hlabel
  obtain rfl := List.mem_singleton.mp hlabel
  exact List.lookup_cons_self

theorem leadsThrough :
    LeadsThrough blueprint.route blueprint.service blueprint.deployment blueprint.container := by
  obtain ⟨port, hroute, hnamed⟩ := blueprint.route_reaches
  obtain ⟨target, hport⟩ := blueprint.servicePort_reaches hnamed
  exact ⟨blueprint.service_selects, blueprint.containers_deployment, port, target, hroute, hport⟩

/-! ### What the children depend on -/

theorem container_eq_iff (spec : ServerSpec) :
    container { blueprint with spec := spec } = blueprint.container ↔
      spec.image = blueprint.spec.image ∧
        spec.effectiveCommand = blueprint.spec.effectiveCommand ∧
        spec.effectiveArgs = blueprint.spec.effectiveArgs := by
  simp only [container, Container.mk.injEq, Option.some.injEq, and_true]
  constructor
  · rintro ⟨hargs, hcommand, himage⟩
    exact ⟨himage, hcommand, hargs⟩
  · rintro ⟨himage, hcommand, hargs⟩
    exact ⟨hargs, hcommand, himage⟩

theorem deployment_eq_iff (spec : ServerSpec) :
    deployment { blueprint with spec := spec } = blueprint.deployment ↔
      container { blueprint with spec := spec } = blueprint.container := by
  constructor
  · intro hsame
    have hcontainers := congrArg Deployment.containers hsame
    rw [containers_deployment, containers_deployment] at hcontainers
    exact List.singleton_inj.mp hcontainers
  · intro hsame
    unfold deployment
    rw [hsame]
    rfl

/-- The children of a server are wired together, whatever it is called, where it is, who owns it and
what it runs. Requests lead from the route through the service to the only container, all three carry
the same metadata, and the container runs the command with the arguments that the server asks for, or
with the built-in ones for what is missing or empty. Another specification makes no other service or
route, and another deployment exactly if its image or what is run differs. -/
theorem children_wired :
    LeadsThrough blueprint.route blueprint.service blueprint.deployment blueprint.container ∧
      (∀ kind : ChildKind, kind.metadata (blueprint.child kind) = blueprint.metadata) ∧
      (blueprint.container.command = some blueprint.spec.effectiveCommand ∧
        Replaces blueprint.spec.command defaultCommand blueprint.spec.effectiveCommand ∧
        blueprint.spec.effectiveCommand ≠ []) ∧
      (blueprint.container.args = some blueprint.spec.effectiveArgs ∧
        Replaces blueprint.spec.args defaultArgs blueprint.spec.effectiveArgs ∧
        blueprint.spec.effectiveArgs ≠ []) ∧
      ∀ spec : ServerSpec,
        let other : Blueprint := { blueprint with spec := spec }
        other.service = blueprint.service ∧ other.route = blueprint.route ∧
          (other.deployment = blueprint.deployment ↔
            spec.image = blueprint.spec.image ∧
              spec.effectiveCommand = blueprint.spec.effectiveCommand ∧
              spec.effectiveArgs = blueprint.spec.effectiveArgs) := by
  have hcommand := replaces_effective blueprint.spec.command defaultCommand
  have hargs := replaces_effective blueprint.spec.args defaultArgs
  refine ⟨blueprint.leadsThrough, blueprint.metadata_child, ?_, ?_, ?_⟩
  · exact ⟨rfl, hcommand, hcommand.ne_nil (List.cons_ne_nil _ _)⟩
  · exact ⟨rfl, hargs, hargs.ne_nil (List.cons_ne_nil _ _)⟩
  · intro spec other
    refine ⟨rfl, rfl, ?_⟩
    rw [← blueprint.container_eq_iff spec]
    exact blueprint.deployment_eq_iff spec

end Blueprint

end ServerOperator
