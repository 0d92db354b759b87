import ServerOperator.Child.Kind
import ServerOperator.ClusterError
import ServerOperator.Status.Conditions

/-!
What a read of a child says about it.
-/

namespace ServerOperator.ChildKind

def notFoundMessage (name : String) : ChildKind → String
  | deployment => "Deployment " ++ name ++ " cannot be found"
  | service => "Service " ++ name ++ " not found"
  | route => "Route " ++ name ++ " not found"

def getFailedMessage (name : String) (error : ClusterError) : ChildKind → String
  | deployment => "Failed to retrieve Deployment " ++ name ++ ", " ++ error.message
  | service => "Failed to get Service " ++ name ++ ": " ++ error.message
  | route => "Failed to get Route " ++ name ++ ": " ++ error.message

def readyMessage (name : String) : ChildKind → String
  | deployment => "Deployment " ++ name ++ " is available"
  | service => "Service " ++ name ++ " exists and is available"
  | route => "Route " ++ name ++ " is admitted and active"

def notFound (kind : ChildKind) (name : String) : Condition :=
  .ofVerdict kind.conditionType ⟨.false, kind.name ++ "NotFound", kind.notFoundMessage name⟩

def getFailed (kind : ChildKind) (name : String) (error : ClusterError) : Condition :=
  .ofVerdict kind.conditionType
    ⟨.unknown, kind.name ++ "GetFailed", kind.getFailedMessage name error⟩

def ready (kind : ChildKind) (name : String) : Condition :=
  .ofVerdict kind.conditionType ⟨.true, kind.name ++ "Ready", kind.readyMessage name⟩

/-- A service is ready as soon as it exists. -/
def isReady : (kind : ChildKind) → kind.Object → Bool
  | deployment => Deployment.isAvailable
  | service => fun _ => true
  | route => Route.isAdmitted

def readiness (kind : ChildKind) (name : String) (object : kind.Object) : Condition :=
  match kind with
  | deployment =>
      if Deployment.isAvailable object then deployment.ready name
      else .ofVerdict .deploymentAvailable
        ⟨.false, "DeploymentNotReady", "Deployment " ++ name ++ " is not yet available"⟩
  | service => service.ready name
  | route =>
      if Route.isAdmitted object then route.ready name
      else .ofVerdict .routeAvailable
        ⟨.false, "RouteNotAdmitted", "Route " ++ name ++ " has not been admitted by a router yet"⟩

def observed (kind : ChildKind) (name : String) :
    Except ClusterError (Option kind.Object) → Condition
  | .ok (some object) => kind.readiness name object
  | .ok none => kind.notFound name
  | .error error => if error.isNotFound then kind.notFound name else kind.getFailed name error

end ServerOperator.ChildKind
