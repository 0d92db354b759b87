import ServerOperator.Proofs.Agenda
import ServerOperator.Proofs.Effects
import ServerOperator.Proofs.Interleaving

/-!
# Children are created once

Any number of passes may be mixed in any way, and anything may become of their calls. A call never
touches a child that is there, so a child is created again only after someone else removed it. And
as a conflict is no failure to a pass, a creation that had its effect and was reported as failed
stands in the way of no later pass.
-/

namespace ServerOperator

theorem Pass.childrenStay_proceed (pass : Pass α) (fate : Fate) (cluster : Cluster) :
    cluster.ChildrenStay (pass.proceed fate cluster).2 := by
  rcases pass.proceed_cluster fate cluster with hsame | ⟨call, hcall⟩
  · rw [hsame]
    exact .refl cluster
  · rw [hcall]
    exact cluster.childrenStay_answer call

theorem Pass.identity?_proceed (pass : Pass α) (fate : Fate) (cluster : Cluster) (key : Key) :
    (pass.proceed fate cluster).2.identity? key = cluster.identity? key := by
  rcases pass.proceed_cluster fate cluster with hsame | ⟨call, hcall⟩
  · rw [hsame]
  · rw [hcall, cluster.identity?_answer]

def Step.isCall : Step → Bool
  | .call _ _ => true
  | _ => false

def Step.isCallOf (index : Nat) : Step → Bool
  | .call other _ => other = index
  | _ => false

theorem Step.eq_call_of_isCallOf {index : Nat} {step : Step} (hcall : step.isCallOf index = true) :
    ∃ fate, step = .call index fate := by
  cases step with
  | call other fate =>
      obtain rfl : other = index := of_decide_eq_true hcall
      exact ⟨fate, rfl⟩
  | _ => cases hcall

namespace Interleaved

theorem childrenStay_call (state : Interleaved) (index : Nat) (fate : Fate) :
    state.cluster.ChildrenStay (state.step (.call index fate)).cluster := by
  simp only [step]
  split
  · rename_i pass _
    exact pass.childrenStay_proceed fate state.cluster
  · exact .refl state.cluster

/-! ### Counting creations -/

def holdsChild (kind : ChildKind) (key : Key) (state : Interleaved) : Bool :=
  (state.cluster.store (.child kind)).contains key

/-- A creation takes effect: after a call of a pass there is an object where there was none. -/
def creates (kind : ChildKind) (key : Key) (state : Interleaved) (step : Step) : Bool :=
  step.isCall && !state.holdsChild kind key && (state.step step).holdsChild kind key

/-- Someone else removes an object that is there. -/
def removes (kind : ChildKind) (key : Key) (state : Interleaved) : Step → Bool
  | .removeChild other place => other = kind && place = key && state.holdsChild kind key
  | _ => false

/-- How often something happens along the steps. -/
def countAlong (happens : Interleaved → Step → Bool) : Interleaved → List Step → Nat
  | _, [] => 0
  | state, step :: rest => (happens state step).toNat + countAlong happens (state.step step) rest

variable (kind : ChildKind) (key : Key)

/-- A child that is there stays, unless it is removed. -/
theorem holdsChild_step {state : Interleaved} (hheld : state.holdsChild kind key = true)
    (step : Step) :
    (state.step step).holdsChild kind key = true ∨ state.removes kind key step = true := by
  cases step with
  | start now place => exact .inl hheld
  | call index fate => exact .inl ((state.childrenStay_call index fate).contains hheld)
  | storeChild other place object => exact .inl (state.cluster.contains_insert object hheld)
  | removeChild other place =>
      by_cases hsame : other = kind ∧ place = key
      · refine .inr ?_
        simp [removes, hsame, hheld]
      · exact .inl (state.cluster.contains_erase hheld hsame)
  | createRecord place metadata spec =>
      exact .inl ((state.cluster.childrenStay_withServers _).contains hheld)
  | editRecord place metadata spec =>
      refine .inl ?_
      simp only [Interleaved.step]
      split
      · exact (state.cluster.childrenStay_withServers _).contains hheld
      · exact hheld
  | removeRecord place => exact .inl ((state.cluster.childrenStay_withServers _).contains hheld)

/-- A creation fills the place of a child, and only a removal empties it again. -/
theorem balance_step (state : Interleaved) (step : Step) :
    (state.creates kind key step).toNat + (state.holdsChild kind key).toNat ≤
      (state.removes kind key step).toNat + ((state.step step).holdsChild kind key).toNat := by
  cases hheld : state.holdsChild kind key with
  | true =>
      have hcreates : state.creates kind key step = false := by simp [creates, hheld]
      rw [hcreates]
      rcases holdsChild_step kind key hheld step with hholds | hremoves
      · simp [hholds]
      · simp [hremoves]
  | false =>
      cases hcreates : state.creates kind key step with
      | true =>
          have hholds : (state.step step).holdsChild kind key = true := by
            simp only [creates, Bool.and_eq_true] at hcreates
            exact hcreates.2
          simp [hholds]
      | false => exact Nat.zero_le _

theorem balance_run (state : Interleaved) (steps : List Step) :
    countAlong (creates kind key) state steps + (state.holdsChild kind key).toNat ≤
      countAlong (removes kind key) state steps +
        ((state.run steps).holdsChild kind key).toNat := by
  induction steps generalizing state with
  | nil => exact Nat.le_refl _
  | cons step rest ih =>
      have hstep := balance_step kind key state step
      have hrest : countAlong (creates kind key) (state.step step) rest +
          ((state.step step).holdsChild kind key).toNat ≤
            countAlong (removes kind key) (state.step step) rest +
              ((state.run (step :: rest)).holdsChild kind key).toNat := ih (state.step step)
      simp only [countAlong]
      omega

end Interleaved

/-! ### Passes that nothing else makes fail -/

/-- With a name and a uid, a record can own children. -/
def Metadata.IsIdentified (metadata : Metadata) : Prop :=
  metadata.name ≠ none ∧ metadata.uid ≠ none

namespace Pass

/-- What a cluster answers in which the record under a key is there: a creation fails only where the
child is there too, and the status is written. -/
def Granted (key : Key) : (call : Call) → call.Answer → Prop
  | .create _ _, .error source => source.isAlreadyExists = true
  | .writeStatus written _, .error _ => written ≠ key
  | _, _ => True

theorem granted_answer {cluster : Cluster} {key : Key}
    (hpresent : (cluster.identity? key).isSome = true) (call : Call) :
    Granted key call (cluster.answer call).1 := by
  cases call with
  | fetch place => trivial
  | get kind place => trivial
  | create kind object =>
      rw [cluster.answer_create]
      split
      · rfl
      · trivial
  | writeStatus place status =>
      simp only [Cluster.answer]
      split
      · trivial
      · rename_i habsent
        rintro rfl
        rw [Cluster.identity?, habsent] at hpresent
        cases hpresent

theorem tend_failsOnly_never {server : Server} (hidentified : server.metadata.IsIdentified)
    (now : String) (key : Key) :
    (tend now key server).FailsOnly (Granted key) fun _ => False := by
  apply failsOnly_tend
  · intro hreference
    rcases Server.controllerReference?_eq_none_iff.mp hreference with hname | huid
    · exact hidentified.1 hname
    · exact hidentified.2 huid
  · intro kind object source hgranted hfailed
    cases hfailed.symm.trans hgranted
  · intro status source hgranted
    exact hgranted rfl

theorem proceed_reconcile (now : String) (key : Key) (cluster : Cluster) :
    (reconcile now key).proceed .answered cluster =
      ((cluster.servers.find? key).elim (finished .awaitChange) (tend now key), cluster) := by
  simp only [reconcile, fetch, call, Bind.bind, Pass.bind, proceed, Cluster.answer]
  cases cluster.servers.find? key <;> rfl

/-- How a pass stands that only its calls could make fail, with the calls still to come: it has yet
to fetch the record, or it has found it and it is there still, or it is done. -/
inductive Undisturbed (key : Key) (cluster : Cluster) : List (String × Key) → Pass Action → Prop
  | starting (now : String) : Undisturbed key cluster (agenda key) (reconcile now key)
  | tending {labels : List (String × Key)} {pass : Pass Action}
      (hfollows : pass.Follows (fun _ _ => True) labels)
      (hfails : pass.FailsOnly (Granted key) fun _ => False)
      (hpresent : (cluster.identity? key).isSome = true) : Undisturbed key cluster labels pass
  | done (labels : List (String × Key)) (action : Action) :
      Undisturbed key cluster labels (finished action)

namespace Undisturbed

variable {key : Key} {cluster : Cluster} {labels : List (String × Key)} {pass : Pass Action}

theorem not_failed (hpass : pass.Undisturbed key cluster labels) (error : PassError) :
    pass ≠ failed error := by
  rintro rfl
  cases hpass with
  | tending _ hfails _ => exact hfails

theorem finished_of_nil (hpass : pass.Undisturbed key cluster []) :
    ∃ action, pass = finished action := by
  generalize hlabels : ([] : List (String × Key)) = labels at hpass
  cases hpass with
  | starting now => cases hlabels
  | tending hfollows hfails _ =>
      subst hlabels
      cases pass with
      | finished action => exact ⟨action, rfl⟩
      | failed error => exact hfails.elim
      | ask call next =>
          obtain ⟨later, hnil, _⟩ := hfollows
          cases hnil
  | done labels action => exact ⟨action, rfl⟩

theorem mono (hpass : pass.Undisturbed key cluster labels) {after : Cluster}
    (hrecord : (cluster.identity? key).isSome = true → (after.identity? key).isSome = true) :
    pass.Undisturbed key after labels := by
  cases hpass with
  | starting now => exact .starting now
  | tending hfollows hfails hpresent => exact .tending hfollows hfails (hrecord hpresent)
  | done labels action => exact .done labels action

/-- An answered call is one call less to come. -/
theorem proceed (hpass : pass.Undisturbed key cluster labels)
    (hidentified : ∀ metadata ∈ cluster.identity? key, metadata.IsIdentified) :
    (pass.proceed .answered cluster).1.Undisturbed key (pass.proceed .answered cluster).2
      labels.tail := by
  cases hpass with
  | starting now =>
      rw [proceed_reconcile]
      cases hfound : cluster.servers.find? key with
      | none => exact .done _ .awaitChange
      | some server =>
          have hidentity : cluster.identity? key = some server.metadata :=
            congrArg (Option.map Server.metadata) hfound
          have hserver : server.metadata.IsIdentified := hidentified server.metadata hidentity
          refine .tending (follows_tend key now server) (tend_failsOnly_never hserver now key) ?_
          rw [hidentity]
          rfl
  | tending hfollows hfails hpresent =>
      cases pass with
      | finished action => exact .done _ action
      | failed error => exact hfails.elim
      | ask call next =>
          obtain ⟨later, rfl, hnext⟩ := hfollows
          refine .tending (hnext _) (hfails _ (granted_answer hpresent call)) ?_
          exact (congrArg Option.isSome (cluster.identity?_answer call key)).trans hpresent
  | done labels action => exact .done labels.tail action

end Undisturbed

end Pass

/-- A step leaves a pass over a key alone: calls of the pass are answered, and the record is neither
removed nor left without a name or uid. -/
def Step.Spares (index : Nat) (key : Key) : Step → Prop
  | .call other fate => other = index → fate = .answered
  | .createRecord place metadata _ => place = key → metadata.IsIdentified
  | .editRecord place metadata _ => place = key → metadata.IsIdentified
  | .removeRecord place => place ≠ key
  | _ => True

namespace Interleaved

variable {index : Nat} {key : Key} {labels : List (String × Key)} {state : Interleaved}

theorem identity?_step {step : Step} (hspares : step.Spares index key) :
    (state.step step).cluster.identity? key = state.cluster.identity? key ∨
      ∃ metadata, (state.step step).cluster.identity? key = some metadata ∧
        metadata.IsIdentified := by
  have hinsert (place : Key) (server : Server)
      (hserver : place = key → server.metadata.IsIdentified) :
      (state.cluster.insert .server place server).identity? key = state.cluster.identity? key ∨
        ∃ metadata, (state.cluster.insert .server place server).identity? key = some metadata ∧
          metadata.IsIdentified := by
    rw [state.cluster.identity?_insert]
    split
    · rename_i hkey
      exact .inr ⟨server.metadata, rfl, hserver hkey.symm⟩
    · exact .inl rfl
  cases step with
  | start now place => exact .inl rfl
  | call other fate =>
      refine .inl ?_
      simp only [Interleaved.step]
      split
      · rename_i pass _
        exact pass.identity?_proceed fate state.cluster key
      · rfl
  | storeChild kind place object =>
      exact .inl (state.cluster.identity?_withStore_child kind _ key)
  | removeChild kind place => exact .inl (state.cluster.identity?_withStore_child kind _ key)
  | createRecord place metadata spec => exact hinsert place ⟨metadata, spec, none⟩ hspares
  | editRecord place metadata spec =>
      simp only [Interleaved.step]
      split
      · rename_i server _
        exact hinsert place ⟨metadata, spec, server.status⟩ hspares
      · exact .inl rfl
  | removeRecord place => exact .inl (state.cluster.identity?_erase_of_ne (Ne.symm hspares))

/-- Only its calls move a pass. -/
theorem getElem?_passes_step {step : Step} (hcall : step.isCallOf index = false)
    {pass : Pass Action} (hpass : state.passes[index]? = some pass) :
    (state.step step).passes[index]? = some pass := by
  cases step with
  | start now place =>
      obtain ⟨hlength, _⟩ := List.getElem?_eq_some_iff.mp hpass
      exact (List.getElem?_append_left hlength).trans hpass
  | call other fate =>
      have hne : other ≠ index := of_decide_eq_false hcall
      simp only [Interleaved.step]
      split
      · exact (List.getElem?_set_ne hne).trans hpass
      · exact hpass
  | storeChild kind place object => exact hpass
  | removeChild kind place => exact hpass
  | createRecord place metadata spec => exact hpass
  | editRecord place metadata spec =>
      simp only [Interleaved.step]
      split <;> exact hpass
  | removeRecord place => exact hpass

/-- A record that can own children, if it is there, and a pass over it that nothing disturbed. -/
structure Carries (index : Nat) (key : Key) (labels : List (String × Key)) (state : Interleaved) :
    Prop where
  identified : ∀ metadata ∈ state.cluster.identity? key, metadata.IsIdentified
  undisturbed : ∃ pass, state.passes[index]? = some pass ∧
    pass.Undisturbed key state.cluster labels

theorem Carries.step (hcarries : state.Carries index key labels) {step : Step}
    (hspares : step.Spares index key) :
    (state.step step).Carries index key
      (labels.drop (if step.isCallOf index = true then 1 else 0)) := by
  obtain ⟨hidentified, pass, hpass, hundisturbed⟩ := hcarries
  refine ⟨?_, ?_⟩
  · rcases state.identity?_step hspares with hsame | ⟨metadata, hmetadata, hserver⟩
    · rwa [hsame]
    · rw [hmetadata]
      rintro _ ⟨⟩
      exact hserver
  · cases hcall : step.isCallOf index with
    | true =>
        obtain ⟨fate, rfl⟩ := Step.eq_call_of_isCallOf hcall
        obtain rfl : fate = .answered := hspares rfl
        have hstep : state.step (.call index .answered) =
            ⟨(pass.proceed .answered state.cluster).2,
              state.passes.set index (pass.proceed .answered state.cluster).1⟩ := by
          simp only [Interleaved.step, hpass]
        obtain ⟨hlength, _⟩ := List.getElem?_eq_some_iff.mp hpass
        rw [hstep, if_pos rfl, List.drop_one]
        exact ⟨_, List.getElem?_set_self hlength, hundisturbed.proceed hidentified⟩
    | false =>
        refine ⟨pass, getElem?_passes_step hcall hpass, hundisturbed.mono ?_⟩
        intro hpresent
        rcases state.identity?_step hspares with hsame | ⟨metadata, hmetadata, _⟩
        · rwa [hsame]
        · rw [hmetadata]
          rfl

theorem Carries.run (hcarries : state.Carries index key labels) {later : List Step}
    (hspare : ∀ step ∈ later, step.Spares index key) :
    (state.run later).Carries index key (labels.drop (later.countP (Step.isCallOf index))) := by
  induction later generalizing state labels with
  | nil => exact hcarries
  | cons step rest ih =>
      rw [List.forall_mem_cons] at hspare
      have hrest := ih (hcarries.step hspare.1) hspare.2
      rw [List.drop_drop, Nat.add_comm, ← List.countP_cons] at hrest
      exact hrest

/-- Children are created once, and stay as they are. Whatever a pass does next, the children that are
there stay; each kind of child is created under a key at most once more often than others remove it;
and a later pass over a record that stays and can own children does not fail as long as its calls
are answered, and finishes once it has made them, although any number of creations may have had
their effect and been reported as failed. -/
theorem children_created_once (cluster : Cluster) (steps : List Step) :
    let start : Interleaved := ⟨cluster, []⟩
    let state := start.run steps
    (∀ index fate,
      state.cluster.ChildrenStay (state.step (.call index fate)).cluster) ∧
    (∀ kind key, countAlong (creates kind key) start steps ≤
      countAlong (removes kind key) start steps + 1) ∧
    ∀ now key later,
      let index := state.passes.length
      let ended := state.run (.start now key :: later)
      (∀ metadata ∈ state.cluster.identity? key, metadata.IsIdentified) →
      (∀ step ∈ later, step.Spares index key) →
      (∀ error, ended.passes[index]? ≠ some (.failed error)) ∧
        ((Pass.agenda key).length ≤ later.countP (Step.isCallOf index) →
          ∃ action, ended.passes[index]? = some (.finished action)) := by
  intro start state
  refine ⟨fun index fate => state.childrenStay_call index fate, ?_, ?_⟩
  · intro kind key
    calc countAlong (creates kind key) start steps
      _ ≤ countAlong (creates kind key) start steps + (start.holdsChild kind key).toNat :=
          Nat.le_add_right _ _
      _ ≤ countAlong (removes kind key) start steps + (state.holdsChild kind key).toNat :=
          balance_run kind key start steps
      _ ≤ countAlong (removes kind key) start steps + 1 :=
          Nat.add_le_add_left (Bool.toNat_le _) _
  · intro now key later index ended hidentified hspare
    have hstarted : (state.step (.start now key)).Carries index key (Pass.agenda key) := by
      refine ⟨hidentified, Pass.reconcile now key, ?_, .starting now⟩
      exact List.getElem?_concat_length
    obtain ⟨_, pass, hpass, hundisturbed⟩ := hstarted.run hspare
    have hended : ended.passes[index]? = some pass := hpass
    rw [hended]
    refine ⟨?_, ?_⟩
    · intro error herror
      exact hundisturbed.not_failed error (Option.some.inj herror)
    · intro hcalls
      rw [List.drop_eq_nil_of_le hcalls] at hundisturbed
      obtain ⟨action, rfl⟩ := hundisturbed.finished_of_nil
      exact ⟨action, rfl⟩

/-- A pass fails over a creation that had its effect, and the next pass finishes. -/
theorem children_created_once_lostCreation :
    let key : Key := ⟨"default", "web"⟩
    let server : Server :=
      ⟨{ Metadata.empty with name := some "web", uid := some "17" }, default, none⟩
    let cluster : Cluster := ⟨⟨[(key, server)]⟩, .empty, .empty, .empty⟩
    let error := Cluster.refusal "timed out" "Timeout" 504
    let state := (⟨cluster, []⟩ : Interleaved).run
      [.start "t1" key, .call 0 .answered, .call 0 (.lost error)]
    let ended := state.run (.start "t2" key :: List.replicate 8 (.call 1 .answered))
    state.passes[0]? = some (.failed (.create .deployment key error)) ∧
      state.holdsChild .deployment key = true ∧
      ∃ action, ended.passes[1]? = some (.finished action) := by
  intro key server cluster error state ended
  refine ⟨rfl, by decide +kernel, ?_⟩
  have hidentified : ∀ metadata ∈ state.cluster.identity? key, metadata.IsIdentified := by
    have hidentity : state.cluster.identity? key = some server.metadata := rfl
    rw [hidentity]
    rintro _ ⟨⟩
    exact ⟨by decide, by decide⟩
  have hspare : ∀ step ∈ List.replicate 8 (Step.call 1 .answered), step.Spares 1 key := by
    intro step hstep
    rw [List.eq_of_mem_replicate hstep]
    exact fun _ => rfl
  obtain ⟨_, _, hlater⟩ := children_created_once cluster
    [.start "t1" key, .call 0 .answered, .call 0 (.lost error)]
  exact (hlater "t2" key _ hidentified hspare).2 (by decide)

end Interleaved

end ServerOperator
