import ServerOperator.Proofs.Account
import ServerOperator.Proofs.Guarantee

/-!
# Passes that keep a contract

Passes that share a cluster keep something true of it, if each of them does so by its own calls as
long as the answers are what they should be, and the answers are what they should be as long as it is
true. What others do in between must not break it either. Then it is true at all times, and all
answers that any pass is ever given are what they should be.
-/

namespace ServerOperator

/-- What is true of the cluster, what the passes rely on of the answers, and what they guarantee of
their calls, each of which holds because of the others. -/
structure Contract where
  holds : Cluster → Prop
  rely : (call : Call) → call.Answer → Prop
  guarantee : Call → Prop
  error : ∀ call error, rely call (.error error)
  answer : ∀ cluster call, holds cluster → guarantee call →
    rely call (cluster.answer call).1 ∧ holds (cluster.answer call).2
  reconcile : ∀ now key, (Pass.reconcile now key).Keeps rely guarantee fun _ => True

namespace Contract

variable (contract : Contract)

/-- Whatever becomes of a call, the cluster is as it should be, and so is an answer. -/
theorem meet {cluster : Cluster} (hholds : contract.holds cluster) {call : Call}
    (hcall : contract.guarantee call) (fate : Fate) :
    (∀ answer, (fate.meet cluster call).1 = some answer → contract.rely call answer) ∧
      contract.holds (fate.meet cluster call).2 := by
  obtain ⟨hanswer, hafter⟩ := contract.answer cluster call hholds hcall
  cases fate with
  | answered =>
      refine ⟨?_, hafter⟩
      rintro _ ⟨⟩
      exact hanswer
  | refused error =>
      refine ⟨?_, hholds⟩
      rintro _ ⟨⟩
      exact contract.error call error
  | lost error =>
      refine ⟨?_, hafter⟩
      rintro _ ⟨⟩
      exact contract.error call error
  | cancelled landed =>
      refine ⟨nofun, ?_⟩
      cases landed with
      | true => exact hafter
      | false => exact hholds

/-- The pass has kept the contract so far, and will keep it. -/
def KeptBy (pass : Pass α) : Prop :=
  pass.Keeps contract.rely contract.guarantee fun _ => True

variable {contract}

theorem KeptBy.proceed {pass : Pass α} (hpass : contract.KeptBy pass) {cluster : Cluster}
    (hholds : contract.holds cluster) (fate : Fate) :
    contract.KeptBy (pass.proceed fate cluster).1 ∧
      contract.holds (pass.proceed fate cluster).2 ∧
      ∀ exchange ∈ pass.turn fate cluster, ∀ answer, exchange.answer = some answer →
        contract.rely exchange.call answer := by
  cases pass with
  | finished value => exact ⟨trivial, hholds, List.forall_mem_nil _⟩
  | failed error => exact ⟨trivial, hholds, List.forall_mem_nil _⟩
  | ask call next =>
      obtain ⟨hcall, hnext⟩ := hpass
      obtain ⟨hanswer, hafter⟩ := contract.meet hholds hcall fate
      rw [Pass.proceed_ask]
      refine ⟨?_, hafter, List.forall_mem_singleton.mpr hanswer⟩
      cases htold : (fate.meet cluster call).1 with
      | none => trivial
      | some answer => exact hnext answer (hanswer answer htold)

/-- The contract is kept: it holds of the cluster, and by all passes under way. -/
structure IsKept (contract : Contract) (state : Interleaved) : Prop where
  holds : contract.holds state.cluster
  passes : ∀ pass ∈ state.passes, contract.KeptBy pass

/-- What others do keeps the contract. -/
def Suits (contract : Contract) (step : Step) : Prop :=
  step.isCall = false → ∀ state : Interleaved, contract.holds state.cluster →
    contract.holds (state.step step).cluster

variable {state : Interleaved}

theorem IsKept.call (hkept : contract.IsKept state) {index : Nat} {pass : Pass Action}
    (hpass : state.passes[index]? = some pass) (fate : Fate) :
    contract.IsKept (state.step (.call index fate)) ∧
      ∀ exchange ∈ pass.turn fate state.cluster, ∀ answer, exchange.answer = some answer →
        contract.rely exchange.call answer := by
  obtain ⟨hlater, hafter, hturn⟩ :=
    (hkept.passes pass (List.mem_of_getElem? hpass)).proceed hkept.holds fate
  refine ⟨?_, hturn⟩
  rw [Interleaved.step_call hpass]
  refine ⟨hafter, ?_⟩
  intro other hmem
  rcases List.mem_or_eq_of_mem_set hmem with hother | rfl
  · exact hkept.passes other hother
  · exact hlater

theorem IsKept.step (hkept : contract.IsKept state) {step : Step} (hsuits : contract.Suits step) :
    contract.IsKept (state.step step) := by
  cases hcall : step.isCall with
  | false =>
      refine ⟨hsuits hcall state hkept.holds, ?_⟩
      cases step with
      | start now key =>
          intro pass hmem
          rcases List.mem_append.mp hmem with hearlier | hstarted
          · exact hkept.passes pass hearlier
          · rw [List.mem_singleton.mp hstarted]
            exact contract.reconcile now key
      | call index fate => cases hcall
      | editRecord key metadata spec =>
          simp only [Interleaved.step]
          split
          · exact hkept.passes
          · exact hkept.passes
      | _ => exact hkept.passes
  | true =>
      cases step with
      | call index fate =>
          cases hpass : state.passes[index]? with
          | none => rwa [Interleaved.step_call_of_none hpass]
          | some pass => exact (hkept.call hpass fate).1
      | _ => cases hcall

theorem IsKept.run (hkept : contract.IsKept state) {steps : List Step}
    (hsuits : ∀ step ∈ steps, contract.Suits step) : contract.IsKept (state.run steps) := by
  induction steps generalizing state with
  | nil => exact hkept
  | cons step rest ih =>
      rw [List.forall_mem_cons] at hsuits
      exact ih (hkept.step hsuits.1) hsuits.2

/-- All answers that a pass is given are what it relies on. -/
theorem IsKept.rely_of_exchanges (hkept : contract.IsKept state) {steps : List Step}
    (hsuits : ∀ step ∈ steps, contract.Suits step) (index : Nat) :
    ∀ exchange ∈ state.exchanges index steps, ∀ answer, exchange.answer = some answer →
      contract.rely exchange.call answer := by
  induction steps generalizing state with
  | nil => exact List.forall_mem_nil _
  | cons step rest ih =>
      rw [List.forall_mem_cons] at hsuits
      have hlater := ih (hkept.step hsuits.1) hsuits.2
      cases hcall : step.isCallOf index with
      | false =>
          rw [Interleaved.exchanges_of_not_call hcall]
          exact hlater
      | true =>
          obtain ⟨fate, rfl⟩ := Step.eq_call_of_isCallOf hcall
          cases hpass : state.passes[index]? with
          | none =>
              rw [Interleaved.exchanges_call_of_none hpass]
              exact hlater
          | some pass =>
              rw [Interleaved.exchanges_call hpass, List.forall_mem_append]
              exact ⟨(hkept.call hpass fate).2, hlater⟩

end Contract

end ServerOperator
