import ServerOperator.Child.Kind
import ServerOperator.Status.Conditions

/-!
The overall verdict on a server: available when all its children are.
-/

namespace ServerOperator.Conditions

/-- The first entry of the child's type says that it is available. -/
def isReady (conditions : List Condition) (kind : ChildKind) : Bool :=
  (find? conditions kind.conditionType).any Condition.isTrue

def allReady : Verdict :=
  ⟨.true, "AllComponentsReady", "All managed components (Deployment, Service, Route) are ready"⟩

def notReady (kind : ChildKind) : Verdict :=
  ⟨.false, kind.name ++ "NotReady", kind.name ++ " is not yet ready"⟩

/-- Names the first child that is not ready. -/
def overall (conditions : List Condition) : Condition :=
  .ofVerdict .available <|
    match ChildKind.all.find? fun kind => !isReady conditions kind with
    | some kind => notReady kind
    | none => allReady

/-- What a pass found: the conditions with the overall verdict among them, and that verdict. -/
structure Report where
  conditions : List Condition
  overall : Condition
deriving DecidableEq, Repr

/-- Sets each child's condition as it was observed, then the overall verdict on them. -/
def report (observed : List Condition) (now : String) (conditions : List Condition) : Report :=
  let merged := setAll observed now conditions
  let overall := overall merged
  ⟨(set overall now merged).1, overall⟩

end ServerOperator.Conditions
