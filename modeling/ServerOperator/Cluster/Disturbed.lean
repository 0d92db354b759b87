import ServerOperator.Cluster.Basic
import ServerOperator.Pass.Run

/-!
A cluster with disturbances: calls that fail, and things that happen just when a call succeeds.
-/

namespace ServerOperator

/-- What may happen when a call succeeds: the pass is cancelled; it is cancelled before the answer
arrives; the object that the call was about disappears. -/
inductive Disturbance where
  | cancel
  | hang
  | vanish
deriving DecidableEq, Repr

/-- Failures and disturbances go by the name of the call. A failure lasts; a disturbance happens
once. `journal` lists the calls that were made. -/
structure DisturbedCluster where
  cluster : Cluster
  cancelled : Bool
  failures : List (String × ClusterError)
  disturbances : List (String × Disturbance)
  journal : List String
deriving Inhabited

namespace DisturbedCluster

def calm : DisturbedCluster := ⟨.empty, false, [], [], []⟩

def without (name : String) (entries : List (String × α)) : List (String × α) :=
  entries.filter fun entry => entry.1 ≠ name

def fail (state : DisturbedCluster) (name : String) (error : Option ClusterError) :
    DisturbedCluster :=
  let others := without name state.failures
  { state with failures := (error.map fun error => (name, error)).toList ++ others }

def disturb (state : DisturbedCluster) (name : String) (disturbance : Disturbance) :
    DisturbedCluster :=
  { state with disturbances := (name, disturbance) :: without name state.disturbances }

/-- Makes a call that is neither abandoned nor made to fail. -/
def succeed (state : DisturbedCluster) (call : Call) : Option call.Answer × DisturbedCluster :=
  let (answer, cluster) := state.cluster.answer call
  let state := { state with cluster := cluster }
  match answer, state.disturbances.lookup call.name with
  | .ok value, some disturbance =>
      let state := { state with disturbances := without call.name state.disturbances }
      match disturbance with
      | .cancel => (some (.ok value), { state with cancelled := true })
      | .hang => (none, { state with cancelled := true })
      | .vanish => (some (.ok value), { state with cluster := cluster.erase call.kind call.key })
  | answer, _ => (some answer, state)

def perform (call : Call) (state : DisturbedCluster) : Option call.Answer × DisturbedCluster :=
  let state := { state with journal := state.journal ++ [call.name] }
  match state.failures.lookup call.name with
  | some error => (some (.error error), state)
  | none => state.succeed call

def backend : Backend DisturbedCluster where
  isCancelled := cancelled
  perform := perform

end DisturbedCluster

end ServerOperator
