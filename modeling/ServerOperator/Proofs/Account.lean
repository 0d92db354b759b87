import ServerOperator.Proofs.Creation

/-!
# One pass among others

Where passes take turns, what one of them exchanges is spread over the steps. Taken together it is a
trace of that pass, as if it had been alone, so all that is known of traces holds of it.
-/

namespace ServerOperator

/-- What a call meets: its answer, unless it is abandoned, and the cluster that it leaves. -/
def Fate.meet (fate : Fate) (cluster : Cluster) (call : Call) : Option call.Answer × Cluster :=
  let (answer, after) := cluster.answer call
  match fate with
  | answered => (some answer, after)
  | refused error => (some (.error error), cluster)
  | lost error => (some (.error error), after)
  | cancelled landed => (none, if landed then after else cluster)

namespace Pass

theorem proceed_ask (call : Call) (next : call.Answer → Pass α) (fate : Fate) (cluster : Cluster) :
    (ask call next).proceed fate cluster =
      ((fate.meet cluster call).1.elim (failed .cancelled) next, (fate.meet cluster call).2) := by
  cases fate <;> rfl

/-- What a pass exchanges in one turn. -/
def turn (fate : Fate) (cluster : Cluster) : Pass α → List Exchange
  | finished _ => []
  | failed _ => []
  | ask call _ => [⟨call, (fate.meet cluster call).1⟩]

theorem Trace.turn {pass : Pass α} {fate : Fate} {cluster : Cluster} {log : List Exchange}
    {outcome : Except PassError α}
    (htrace : (pass.proceed fate cluster).1.Trace log outcome) :
    pass.Trace (pass.turn fate cluster ++ log) outcome := by
  cases pass with
  | finished value => exact htrace
  | failed error => exact htrace
  | ask call next =>
      rw [proceed_ask] at htrace
      change (ask call next).Trace (⟨call, (fate.meet cluster call).1⟩ :: log) outcome
      cases hanswer : (fate.meet cluster call).1 with
      | none =>
          rw [hanswer] at htrace
          cases htrace
          exact .abandoned call next
      | some answer =>
          rw [hanswer] at htrace
          exact .answered call next answer htrace

end Pass

/-- The fate of the call, if the step is one of the given pass. -/
def Step.fateOf? (index : Nat) : Step → Option Fate
  | .call other fate => if other = index then some fate else none
  | _ => none

theorem Step.fateOf?_eq_none {index : Nat} {step : Step}
    (hcall : step.isCallOf index = false) : step.fateOf? index = none := by
  cases step with
  | call other fate => exact if_neg (of_decide_eq_false hcall)
  | _ => rfl

namespace Interleaved

/-- What one of the passes exchanges along the steps. -/
def exchanges (index : Nat) : Interleaved → List Step → List Exchange
  | _, [] => []
  | state, step :: rest =>
      (match step.fateOf? index, state.passes[index]? with
        | some fate, some pass => pass.turn fate state.cluster
        | _, _ => []) ++ exchanges index (state.step step) rest

variable {index : Nat} {state : Interleaved} {pass : Pass Action}

theorem step_call (hpass : state.passes[index]? = some pass) (fate : Fate) :
    state.step (.call index fate) =
      ⟨(pass.proceed fate state.cluster).2,
        state.passes.set index (pass.proceed fate state.cluster).1⟩ := by
  simp only [step, hpass]

theorem step_call_of_none (hpass : state.passes[index]? = none) (fate : Fate) :
    state.step (.call index fate) = state := by
  simp only [step, hpass]

theorem getElem?_passes_step_call (hpass : state.passes[index]? = some pass) (fate : Fate) :
    (state.step (.call index fate)).passes[index]? =
      some (pass.proceed fate state.cluster).1 := by
  obtain ⟨hlength, _⟩ := List.getElem?_eq_some_iff.mp hpass
  rw [step_call hpass]
  exact List.getElem?_set_self hlength

theorem exchanges_call (hpass : state.passes[index]? = some pass) (fate : Fate)
    (rest : List Step) :
    state.exchanges index (.call index fate :: rest) =
      pass.turn fate state.cluster ++
        (state.step (.call index fate)).exchanges index rest := by
  have hfate : (Step.call index fate).fateOf? index = some fate := if_pos rfl
  simp only [exchanges, hfate, hpass]

theorem exchanges_call_of_none (hpass : state.passes[index]? = none) (fate : Fate)
    (rest : List Step) :
    state.exchanges index (.call index fate :: rest) =
      (state.step (.call index fate)).exchanges index rest := by
  have hfate : (Step.call index fate).fateOf? index = some fate := if_pos rfl
  simp only [exchanges, hfate, hpass, List.nil_append]

theorem exchanges_of_not_call {step : Step} (hcall : step.isCallOf index = false)
    (rest : List Step) :
    state.exchanges index (step :: rest) = (state.step step).exchanges index rest := by
  simp only [exchanges, Step.fateOf?_eq_none hcall, List.nil_append]

/-- What is left of a pass goes on from what it exchanged. -/
theorem trace_run (hpass : state.passes[index]? = some pass) (steps : List Step) :
    ∃ rest, (state.run steps).passes[index]? = some rest ∧
      ∀ log outcome, rest.Trace log outcome →
        pass.Trace (state.exchanges index steps ++ log) outcome := by
  induction steps generalizing state pass with
  | nil => exact ⟨pass, hpass, fun _ _ htrace => htrace⟩
  | cons step rest ih =>
      cases hcall : step.isCallOf index with
      | true =>
          obtain ⟨fate, rfl⟩ := Step.eq_call_of_isCallOf hcall
          obtain ⟨left, hleft, hgoes⟩ := ih (getElem?_passes_step_call hpass fate)
          refine ⟨left, hleft, ?_⟩
          intro log outcome htrace
          rw [exchanges_call hpass, List.append_assoc]
          exact (hgoes log outcome htrace).turn
      | false =>
          obtain ⟨left, hleft, hgoes⟩ := ih (getElem?_passes_step hcall hpass)
          refine ⟨left, hleft, ?_⟩
          intro log outcome htrace
          rw [exchanges_of_not_call hcall]
          exact hgoes log outcome htrace

end Interleaved

end ServerOperator
