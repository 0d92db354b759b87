/-!
The lifetime of the operator: its controller and its health endpoints run side by side, and when one
of them ends the other is stopped.
-/

namespace ServerOperator.Lifetime

inductive Failure where
  | addressInUse
deriving DecidableEq, Repr

def Failure.message : Failure → String
  | addressInUse => "Address already in use (os error 98)"

/-- How the two tasks end, each of them by itself. -/
structure Endings where
  controller : Except Failure Unit
  health : Except Failure Unit

/-- How the operator ends. Of two failures the controller's is reported. -/
def Endings.outcome (endings : Endings) : Except Failure Unit := do
  endings.controller
  endings.health

/-- What ends the operator: a signal that asks for it, or a port that is taken. -/
inductive Cause where
  | terminated
  | interrupted
  | portTaken
deriving DecidableEq, Repr

/-- A task that is stopped ends in good order. The health endpoints fail before they begin if they
cannot have their port. -/
def Cause.endings : Cause → Endings
  | terminated => ⟨.ok (), .ok ()⟩
  | interrupted => ⟨.ok (), .ok ()⟩
  | portTaken => ⟨.ok (), .error .addressInUse⟩

end ServerOperator.Lifetime
