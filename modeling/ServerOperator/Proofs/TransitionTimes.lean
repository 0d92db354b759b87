import ServerOperator.Cluster.Disturbed
import ServerOperator.Proofs.Persistence

/-!
# Transition times over a history of passes

Passes run over a record one after another, each with its own clock reading, and each against
whatever happens to its calls. The time on an entry is always that of the latest pass that left
another value for the type than the one before it had left.
-/

namespace ServerOperator

namespace Conditions

def valueOf (type : ConditionType) (held : Option ServerStatus) : Option ConditionStatus :=
  (find? (held.getD .empty).conditions type).map Condition.status

def transitionTimeOf (type : ConditionType) (held : Option ServerStatus) : Option (Option String) :=
  (find? (held.getD .empty).conditions type).map Condition.lastTransitionTime

/-- A new condition without a time of its own keeps the time of an entry with its value, and else
gets the present one. -/
theorem lastTransitionTime_merged (held : Option Condition) {new : Condition} (now : String)
    (hunstamped : new.lastTransitionTime = none) :
    some (merged held new now).lastTransitionTime =
      if held.map Condition.status = some new.status then held.map Condition.lastTransitionTime
      else some (some now) := by
  have hsince : since new now = some now := by
    unfold since
    rw [hunstamped]
    rfl
  cases held with
  | none =>
      rw [if_neg (by simp)]
      exact congrArg some hsince
  | some held =>
      have hiff : (some held).map Condition.status = some new.status ↔ held.status = new.status :=
        Option.some_inj
      change some (if held.status = new.status then held.lastTransitionTime else since new now) = _
      rw [hsince]
      by_cases hsame : held.status = new.status
      · rw [if_pos hsame, if_pos (hiff.mpr hsame)]
        rfl
      · rw [if_neg hsame, if_neg (mt hiff.mp hsame)]

/-- What a pass sets under a type keeps the time there if it keeps the value, and else brings the
time of the pass. -/
theorem transitionTimeOf_status (reads : Reads) (name now : String) (held : Option ServerStatus)
    (type : ConditionType) :
    let after := some (reads.status name now held)
    transitionTimeOf type after =
      if valueOf type after = valueOf type held then transitionTimeOf type held
      else some (some now) := by
  intro after
  obtain ⟨new, hmem, rfl⟩ := reads.exists_mem_reported name type
  have hunstamped := reads.lastTransitionTime_reported name hmem
  have hfind : find? (after.getD .empty).conditions new.type =
      some (merged (find? (held.getD .empty).conditions new.type) new now) :=
    reads.find?_status name now held hmem
  have hvalue : valueOf new.type after = some new.status := by
    unfold valueOf
    rw [hfind]
    exact congrArg some (congrArg Verdict.status (verdict_merged _ new now))
  rw [hvalue]
  unfold transitionTimeOf
  rw [hfind]
  refine (lastTransitionTime_merged _ now hunstamped).trans ?_
  exact if_congr eq_comm rfl rfl

end Conditions

/-- One pass in the history of a record: how the clock reads, and the state that its calls meet. -/
structure Episode (σ : Type) where
  now : String
  state : σ

namespace Episode

open Conditions

variable (backend : Backend σ) (lands : σ → Bool) (key : Key)

def leaves (episode : Episode σ) (held : Option ServerStatus) : Option ServerStatus :=
  ((Pass.reconcile episode.now key).run (backend.holding lands key) (episode.state, held)).2.2

/-- The status on a record after passes one after another, the latest of them first. The record had
none before, and only the passes write it. -/
def persisted : List (Episode σ) → Option ServerStatus
  | [] => none
  | episode :: earlier => episode.leaves backend lands key (persisted earlier)

/-- When the latest pass ran that wrote a value for a type other than the one persisted before. -/
def latestTransition (type : ConditionType) : List (Episode σ) → Option String
  | [] => none
  | episode :: earlier =>
      let before := persisted backend lands key earlier
      if valueOf type (episode.leaves backend lands key before) = valueOf type before then
        latestTransition type earlier
      else some episode.now

theorem transitionTimeOf_leaves (episode : Episode σ) (held : Option ServerStatus)
    (type : ConditionType) :
    transitionTimeOf type (episode.leaves backend lands key held) =
      if valueOf type (episode.leaves backend lands key held) = valueOf type held then
        transitionTimeOf type held
      else some (some episode.now) := by
  have htrace := Pass.trace_exchanges (backend.holding lands key)
    (Pass.reconcile episode.now key) (episode.state, held)
  have hleads := Exchange.leads_exchanges backend lands key
    (Pass.reconcile episode.now key) (episode.state, held)
  rcases Pass.leads_reconcile htrace hleads with hkept | ⟨reads, hwritten⟩
  · have hleaves : episode.leaves backend lands key held = held := hkept
    rw [hleaves, if_pos rfl]
  · have hleaves : episode.leaves backend lands key held =
        some (reads.status key.name episode.now held) := hwritten
    rw [hleaves]
    exact transitionTimeOf_status reads key.name episode.now held type

/-- Transition times tell the truth over whole histories. However the calls of the passes were
answered, and wherever they were stopped: the time persisted under a type is the clock reading of
the latest pass that wrote another value for the type than was persisted before, or wrote the first
one; and a type that was never written has no entry. -/
theorem transitionTimeOf_persisted (type : ConditionType) (history : List (Episode σ)) :
    transitionTimeOf type (persisted backend lands key history) =
      (latestTransition backend lands key type history).map some := by
  induction history with
  | nil => rfl
  | cons episode earlier ih =>
      unfold persisted latestTransition
      rw [transitionTimeOf_leaves]
      simp only
      split
      · exact ih
      · rfl

/-- The second pass finds what the first one found, and the third finds the service gone. -/
example :
    let key : Key := ⟨"default", "web"⟩
    let server : Server :=
      ⟨{ Metadata.empty with name := some "web", uid := some "17" }, default, none⟩
    let cluster : Cluster := ⟨⟨[(key, server)]⟩, .empty, .empty, .empty⟩
    let calm : DisturbedCluster := { DisturbedCluster.calm with cluster := cluster }
    let bare : DisturbedCluster := calm.disturb "create Service" .vanish
    let history : List (Episode DisturbedCluster) := [⟨"t3", bare⟩, ⟨"t2", calm⟩, ⟨"t1", calm⟩]
    let latest := latestTransition DisturbedCluster.backend (fun _ => false) key
    latest .serviceAvailable history = some "t3" ∧ latest .routeAvailable history = some "t1" := by
  decide +kernel

end Episode

end ServerOperator
