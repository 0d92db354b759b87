import ServerOperator.Cluster.Basic
import ServerOperator.Pass.Reconcile

/-!
# Passes that run side by side

Any number of passes share one cluster, and take turns call by call in any order. Any call may fail,
with or without having had its effect, and any pass may be cancelled before a call or during it. In
between, others create, change and remove children and records. Everything that happens is a step,
and a list of steps is one way in which it all may go.
-/

namespace ServerOperator

/-- What becomes of a call that a pass is about to make. -/
inductive Fate where
  | answered
  /-- Answered by an error, without an effect. -/
  | refused (error : ClusterError)
  /-- Answered by an error although it had its effect. -/
  | lost (error : ClusterError)
  /-- The pass is cancelled before the call, or during it, when it may have had its effect. -/
  | cancelled (landed : Bool)

def Pass.proceed (fate : Fate) (cluster : Cluster) : Pass α → Pass α × Cluster
  | finished value => (finished value, cluster)
  | failed error => (failed error, cluster)
  | ask call next =>
      let (answer, after) := cluster.answer call
      match fate with
      | .answered => (next answer, after)
      | .refused error => (next (.error error), cluster)
      | .lost error => (next (.error error), after)
      | .cancelled landed => (failed .cancelled, if landed then after else cluster)

/-- To the cluster a turn of a pass does nothing, or what one call does. -/
theorem Pass.proceed_cluster (pass : Pass α) (fate : Fate) (cluster : Cluster) :
    (pass.proceed fate cluster).2 = cluster ∨
      ∃ call : Call, (pass.proceed fate cluster).2 = (cluster.answer call).2 := by
  cases pass with
  | finished value => exact .inl rfl
  | failed error => exact .inl rfl
  | ask call next =>
      cases fate with
      | answered => exact .inr ⟨call, rfl⟩
      | refused error => exact .inl rfl
      | lost error => exact .inr ⟨call, rfl⟩
      | cancelled landed =>
          cases landed with
          | true => exact .inr ⟨call, rfl⟩
          | false => exact .inl rfl

/-- Passes are known by the order in which they started. A record that is created has no status, and
one that is edited keeps the status it had. -/
inductive Step where
  | start (now : String) (key : Key)
  | call (index : Nat) (fate : Fate)
  | storeChild (kind : ChildKind) (key : Key) (object : kind.Object)
  | removeChild (kind : ChildKind) (key : Key)
  | createRecord (key : Key) (metadata : Metadata) (spec : ServerSpec)
  | editRecord (key : Key) (metadata : Metadata) (spec : ServerSpec)
  | removeRecord (key : Key)

/-- A cluster and the passes that were started over it, as far as they have come. -/
structure Interleaved where
  cluster : Cluster
  passes : List (Pass Action)

namespace Interleaved

def step (state : Interleaved) : Step → Interleaved
  | .start now key => { state with passes := state.passes ++ [Pass.reconcile now key] }
  | .call index fate =>
      match state.passes[index]? with
      | some pass =>
          let (later, after) := pass.proceed fate state.cluster
          ⟨after, state.passes.set index later⟩
      | none => state
  | .storeChild kind key object =>
      { state with cluster := state.cluster.insert (.child kind) key object }
  | .removeChild kind key => { state with cluster := state.cluster.erase (.child kind) key }
  | .createRecord key metadata spec =>
      { state with cluster := state.cluster.insert .server key ⟨metadata, spec, none⟩ }
  | .editRecord key metadata spec =>
      match state.cluster.servers.find? key with
      | some server =>
          let edited : Server := ⟨metadata, spec, server.status⟩
          { state with cluster := state.cluster.insert .server key edited }
      | none => state
  | .removeRecord key => { state with cluster := state.cluster.erase .server key }

def run (state : Interleaved) (steps : List Step) : Interleaved :=
  steps.foldl step state

def ended : Except PassError Action → Pass Action
  | .ok action => .finished action
  | .error error => .failed error

/-- A pass that is alone, and whose calls are all answered, does by steps what it does in a run. -/
theorem run_alone (pass : Pass Action) (cluster : Cluster) :
    ∃ calls, run ⟨cluster, [pass]⟩ (List.replicate calls (.call 0 .answered)) =
      ⟨(pass.run Cluster.backend cluster).2, [ended (pass.run Cluster.backend cluster).1]⟩ := by
  induction pass generalizing cluster with
  | finished value => exact ⟨0, rfl⟩
  | failed error => exact ⟨0, rfl⟩
  | ask call next ih =>
      obtain ⟨calls, hcalls⟩ := ih (cluster.answer call).1 (cluster.answer call).2
      exact ⟨calls + 1, hcalls⟩

theorem run_induction {invariant : Interleaved → Prop}
    (hstep : ∀ state step, invariant state → invariant (state.step step)) (steps : List Step)
    {state : Interleaved} (hstate : invariant state) : invariant (state.run steps) := by
  induction steps generalizing state with
  | nil => exact hstate
  | cons step rest ih => exact ih (hstep state step hstate)

end Interleaved

end ServerOperator
