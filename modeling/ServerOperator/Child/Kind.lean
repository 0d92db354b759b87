import ServerOperator.Resource.Condition
import ServerOperator.Resource.Deployment
import ServerOperator.Resource.Route
import ServerOperator.Resource.Service

/-!
The three objects that a server consists of in the cluster: its children.
-/

namespace ServerOperator

inductive ChildKind where
  | deployment
  | service
  | route
deriving DecidableEq, Repr, Inhabited

namespace ChildKind

def name : ChildKind → String
  | deployment => "Deployment"
  | service => "Service"
  | route => "Route"

/-- The kinds in the order in which they are created, read and reported. -/
def all : List ChildKind :=
  [deployment, service, route]

def conditionType : ChildKind → ConditionType
  | deployment => .deploymentAvailable
  | service => .serviceAvailable
  | route => .routeAvailable

abbrev Object : ChildKind → Type
  | deployment => Deployment
  | service => Service
  | route => Route

def decoder : (kind : ChildKind) → Decoder kind.Object
  | deployment => Deployment.decoder
  | service => Service.decoder
  | route => Route.decoder

def metadata : (kind : ChildKind) → kind.Object → Metadata
  | deployment => Deployment.metadata
  | service => Service.metadata
  | route => Route.metadata

def toJson : (kind : ChildKind) → kind.Object → Json
  | deployment => Deployment.toJson
  | service => Service.toJson
  | route => Route.toJson

def key (kind : ChildKind) (object : kind.Object) : Key :=
  (kind.metadata object).key

end ChildKind

end ServerOperator
