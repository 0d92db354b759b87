import ServerOperator.Proofs.Cancellation
import ServerOperator.Proofs.Healing

/-!
# A pass that is repeated

A pass that ends well leaves the record with a status that the same reads make into itself, and every
child in place that it did not find refused. So when nothing else happens, a second pass finds
nothing to create and nothing to write, whatever its clock says.
-/

namespace ServerOperator

namespace Reads

/-- Whatever was held, once the reads are merged into it there is nothing more to merge. -/
theorem status_status (reads : Reads) (name now later : String) (fetched : Option ServerStatus) :
    reads.status name later (some (reads.status name now fetched)) =
      reads.status name now fetched := by
  refine congrArg ServerStatus.mk (Conditions.setAll_eq_self later ?_)
  intro new hmem
  exact ⟨_, reads.find?_status name now fetched hmem, Conditions.verdict_merged _ new now⟩

end Reads

/-! ### A cluster with lasting obstacles -/

/-- What stands in the way of the calls about the children. A creation may be answered by an error,
with or without its effect; a read may be answered by anything. -/
structure Obstacles where
  creating : ChildKind → Option (ClusterError × Bool)
  reading : (kind : ChildKind) → Option (Except ClusterError (Option kind.Object))

/-- What is met again: the reads are answered as they were, and a creation is answered by a conflict.
It may be left to the cluster instead, unless it was refused before without its effect. -/
structure Obstacles.Recur (first again : Obstacles) : Prop where
  reading : again.reading = first.reading
  creating : ∀ kind,
    (again.creating kind = none ∧ ∀ error, first.creating kind ≠ some (error, false)) ∨
      ∃ error, error.isAlreadyExists = true ∧ again.creating kind = some (error, false)

namespace Cluster

def answerAmid (obstacles : Obstacles) (call : Call) (cluster : Cluster) : call.Answer × Cluster :=
  match call with
  | .create kind object =>
      match obstacles.creating kind with
      | none => cluster.answer (.create kind object)
      | some (error, landed) =>
          (.error error, if landed then (cluster.answer (.create kind object)).2 else cluster)
  | .get kind key =>
      ((obstacles.reading kind).getD (cluster.answer (.get kind key)).1, cluster)
  | .fetch key => cluster.answer (.fetch key)
  | .writeStatus key status => cluster.answer (.writeStatus key status)

/-- Children were added, and that is all. -/
structure GrowsTo (before after : Cluster) : Prop where
  servers : after.servers = before.servers
  children : before.ChildrenStay after

theorem GrowsTo.refl (cluster : Cluster) : cluster.GrowsTo cluster :=
  ⟨rfl, .refl cluster⟩

theorem GrowsTo.trans {before between after : Cluster} (hfirst : before.GrowsTo between)
    (hsecond : between.GrowsTo after) : before.GrowsTo after :=
  ⟨hsecond.servers.trans hfirst.servers, hfirst.children.trans hsecond.children⟩

variable {obstacles : Obstacles} (cluster : Cluster) (kind : ChildKind) (object : kind.Object)

theorem growsTo_answer_create : cluster.GrowsTo (cluster.answer (.create kind object)).2 :=
  ⟨cluster.servers_answer fun _ _ hcall => (by cases hcall), cluster.childrenStay_answer _⟩

theorem answerAmid_create :
    answerAmid obstacles (.create kind object) cluster =
      match obstacles.creating kind with
      | none => cluster.answer (.create kind object)
      | some (error, landed) =>
          (.error error, if landed then (cluster.answer (.create kind object)).2 else cluster) := rfl

theorem growsTo_answerAmid_create :
    cluster.GrowsTo (answerAmid obstacles (.create kind object) cluster).2 := by
  rw [answerAmid_create]
  split
  · exact cluster.growsTo_answer_create kind object
  · split
    · exact cluster.growsTo_answer_create kind object
    · exact .refl cluster

/-- A creation that is not refused leaves a child. -/
theorem contains_answerAmid_create (hlands : ∀ error, obstacles.creating kind ≠ some (error, false)) :
    ((answerAmid obstacles (.create kind object) cluster).2.store (.child kind)).contains
      (kind.key object) = true := by
  rw [answerAmid_create]
  split
  · exact cluster.contains_answer_create kind object
  · rename_i error landed hcreating
    cases landed with
    | true => exact cluster.contains_answer_create kind object
    | false => exact absurd hcreating (hlands error)

/-- A creation is refused by a conflict when it recurs: it was before, or else there is a child now. -/
theorem answerAmid_create_recur {again : Obstacles} (hrecur : obstacles.Recur again)
    (hpresent : (∀ error, obstacles.creating kind ≠ some (error, false)) →
      (cluster.store (.child kind)).contains (kind.key object) = true) :
    ∃ error, error.isAlreadyExists = true ∧
      answerAmid again (.create kind object) cluster = (.error error, cluster) := by
  rw [answerAmid_create]
  rcases hrecur.creating kind with ⟨hnone, hlands⟩ | ⟨error, hconflict, hsome⟩
  · refine ⟨alreadyExists (kind.key object), rfl, ?_⟩
    rw [hnone]
    simp only [answer_create]
    exact if_pos (hpresent hlands)
  · refine ⟨error, hconflict, ?_⟩
    rw [hsome]
    rfl

end Cluster

/-- A cluster amid obstacles, while nothing is cancelled. -/
abbrev Backend.amid (obstacles : Obstacles) : Backend Cluster :=
  .answering (Cluster.answerAmid obstacles)

namespace Pass

/-- A pass that ends well, with all that it exchanges and what it leaves. -/
structure Yields (pass : Pass α) (backend : Backend σ) (state : σ) (log : List Exchange) (value : α)
    (after : σ) : Prop where
  exchanges : pass.exchanges backend state = log
  run : pass.run backend state = (.ok value, after)

theorem Yields.ask {backend : Backend σ} {state between after : σ} {call : Call}
    {next : call.Answer → Pass α} {answer : call.Answer} {log : List Exchange} {value : α}
    (hrunning : backend.isCancelled state = false)
    (hperform : backend.perform call state = (some answer, between))
    (hnext : (next answer).Yields backend between log value after) :
    (ask call next).Yields backend state (⟨call, some answer⟩ :: log) value after := by
  obtain ⟨hlog, hrun⟩ := hnext
  obtain ⟨hasked, hanswered⟩ := @ask_answered _ _ backend call next state between answer hrunning hperform
  exact ⟨hasked.trans (congrArg (_ :: ·) hlog), hanswered.trans hrun⟩

theorem Yields.bind {backend : Backend σ} {state between after : σ} {pass : Pass α}
    {rest : α → Pass β} {first second : List Exchange} {middle : α} {value : β}
    (hpass : pass.Yields backend state first middle between)
    (hrest : (rest middle).Yields backend between second value after) :
    (pass >>= rest).Yields backend state (first ++ second) value after := by
  obtain ⟨rfl, hrun⟩ := hpass
  induction pass generalizing state with
  | finished result =>
      cases hrun
      exact hrest
  | failed error => cases hrun
  | ask call next ih =>
      cases hcancelled : backend.isCancelled state with
      | true => cases (ask_stopped hcancelled).2.symm.trans hrun
      | false =>
          cases hperform : backend.perform call state with
          | mk answer settled =>
              cases answer with
              | none => cases (ask_abandoned hcancelled hperform).2.symm.trans hrun
              | some answer =>
                  obtain ⟨hlog, hanswered⟩ := ask_answered hcancelled hperform
                  rw [hlog]
                  exact Yields.ask hcancelled hperform (ih answer (hanswered.symm.trans hrun))

theorem run_bind_ok {backend : Backend σ} {state after : σ} {pass : Pass α} {rest : α → Pass β}
    {value : β} (hrun : (pass >>= rest).run backend state = (.ok value, after)) :
    ∃ middle between, pass.run backend state = (.ok middle, between) ∧
      (rest middle).run backend between = (.ok value, after) := by
  rw [run_bind] at hrun
  split at hrun
  · rename_i middle between hpass
    exact ⟨middle, between, hpass, hrun⟩
  · cases hrun

theorem run_ask_answering {answer : (call : Call) → σ → call.Answer × σ} {state : σ} {call : Call}
    {next : call.Answer → Pass α} :
    (ask call next).run (.answering answer) state =
      (next (answer call state).1).run (.answering answer) (answer call state).2 := rfl

/-! ### The first pass -/

section First

variable {obstacles : Obstacles} {cluster after : Cluster} {key : Key} {blueprint : Blueprint}

theorem run_ensure_amid {kind : ChildKind} {outcome : EnsureOutcome}
    (hrun : (ensure blueprint kind).run (.amid obstacles) cluster = (.ok outcome, after)) :
    cluster.GrowsTo after ∧ ((∀ error, obstacles.creating kind ≠ some (error, false)) →
      (after.store (.child kind)).contains blueprint.key = true) := by
  have hafter : after = (Cluster.answerAmid obstacles
      (.create kind (blueprint.child kind)) cluster).2 := by
    change (ask (.create kind (blueprint.child kind)) fun answer => _).run _ cluster = _ at hrun
    rw [run_ask_answering] at hrun
    generalize Cluster.answerAmid obstacles (.create kind (blueprint.child kind)) cluster =
      performed at hrun ⊢
    obtain ⟨source | object, settled⟩ := performed
    · change (if source.isAlreadyExists = true then finished EnsureOutcome.alreadyExists
        else failed (.create kind blueprint.key source)).run _ settled = _ at hrun
      split at hrun
      · cases hrun
        rfl
      · cases hrun
    · cases hrun
      rfl
  rw [hafter]
  refine ⟨cluster.growsTo_answerAmid_create kind _, ?_⟩
  intro hlands
  have hcontains := cluster.contains_answerAmid_create kind (blueprint.child kind) hlands
  rwa [blueprint.key_child kind] at hcontains

theorem run_ensureAll_amid
    (hrun : (ensureAll blueprint).run (.amid obstacles) cluster = (.ok (), after)) :
    cluster.GrowsTo after ∧ ∀ kind, (∀ error, obstacles.creating kind ≠ some (error, false)) →
      (after.store (.child kind)).contains blueprint.key = true := by
  obtain ⟨_, _, hfirst, hlater⟩ := run_bind_ok hrun
  obtain ⟨_, _, hsecond, hlast⟩ := run_bind_ok hlater
  obtain ⟨_, _, hthird, hend⟩ := run_bind_ok hlast
  cases hend
  obtain ⟨hgrowsFirst, hdeployment⟩ := run_ensure_amid hfirst
  obtain ⟨hgrowsSecond, hservice⟩ := run_ensure_amid hsecond
  obtain ⟨hgrowsThird, hroute⟩ := run_ensure_amid hthird
  refine ⟨(hgrowsFirst.trans hgrowsSecond).trans hgrowsThird, ?_⟩
  intro kind hlands
  cases kind with
  | deployment =>
      exact (hgrowsSecond.children.trans hgrowsThird.children).contains (hdeployment hlands)
  | service => exact hgrowsThird.children.contains (hservice hlands)
  | route => exact hroute hlands

/-- What the children are read to be. -/
def readsAmid (obstacles : Obstacles) (key : Key) (cluster : Cluster) : Reads :=
  fun kind => (Cluster.answerAmid obstacles (.get kind key) cluster).1

theorem yields_evaluateAll_amid :
    (evaluateAll key).Yields (.amid obstacles) cluster
      (readings key (readsAmid obstacles key cluster))
      ((readsAmid obstacles key cluster).conditions key.name) cluster :=
  ⟨rfl, rfl⟩

theorem run_persist_amid (fetched : Option ServerStatus) (status : ServerStatus) :
    (persist key fetched status).run (.amid obstacles) cluster =
      (persist key fetched status).run Cluster.backend cluster := by
  unfold persist
  split
  · rfl
  · change (ask (.writeStatus key status) fun answer => _).run _ cluster =
      (ask (.writeStatus key status) fun answer => _).run _ cluster
    rw [run_ask_answering, run_ask_cluster]
    change (finished (cluster.answer (.writeStatus key status)).1 >>= _).run _
      (cluster.answer (.writeStatus key status)).2 = _
    generalize cluster.answer (.writeStatus key status) = performed
    obtain ⟨source | done, settled⟩ := performed <;> rfl

/-- The last part only writes, which no obstacle concerns. -/
theorem run_conclude_amid (now : String) (fetched : Option ServerStatus) (reads : Reads) :
    (conclude now key fetched (reads.conditions key.name)).run (.amid obstacles) cluster =
      (conclude now key fetched (reads.conditions key.name)).run Cluster.backend cluster := by
  rw [conclude_conditions, run_bind, run_bind, run_persist_amid]
  generalize (persist key fetched (reads.status key.name now fetched)).run Cluster.backend cluster =
    persisted
  obtain ⟨error | done, settled⟩ := persisted <;> rfl

/-- What a pass leaves that found a record and ended well. -/
theorem run_reconcile_amid {now : String} {server : Server} {action : Action}
    (hstored : cluster.servers.find? key = some server)
    (hrun : (reconcile now key).run (.amid obstacles) cluster = (.ok action, after)) :
    let reads := readsAmid obstacles key after
    (∃ owner, server.controllerReference? = some owner) ∧ action = actionOf reads.overall ∧
      after.servers.find? key =
        some { server with status := some (reads.status key.name now server.status) } ∧
      ∀ kind, (∀ error, obstacles.creating kind ≠ some (error, false)) →
        (after.store (.child kind)).contains key = true := by
  obtain ⟨found, _, hfetch, hrest⟩ := run_bind_ok hrun
  have hfound : (fetch key).run (.amid obstacles) cluster = (.ok (some server), cluster) := by
    rw [← hstored]
    rfl
  cases hfound.symm.trans hfetch
  change (tend now key server).run _ cluster = _ at hrest
  unfold tend at hrest
  cases howner : server.controllerReference? with
  | none =>
      simp only [howner] at hrest
      cases hrest
  | some owner =>
      simp only [howner] at hrest
      obtain ⟨_, made, hensure, hobserve⟩ := run_bind_ok hrest
      obtain ⟨_, _, hevaluate, hconclude⟩ := run_bind_ok hobserve
      obtain ⟨hgrows, hpresent⟩ := run_ensureAll_amid hensure
      rw [yields_evaluateAll_amid.run] at hevaluate
      cases hevaluate
      have hheld : made.servers.find? key = some server := by
        rw [hgrows.servers]
        exact hstored
      rw [run_conclude_amid] at hconclude
      obtain ⟨left, hleft, hserver, hchildren, _⟩ :=
        run_conclude_cluster made key now (readsAmid obstacles key made) hheld
      cases hleft.symm.trans hconclude
      have hreads : readsAmid obstacles key after = readsAmid obstacles key made := by
        funext kind
        unfold readsAmid Cluster.answerAmid
        simp only [Cluster.answer, hchildren kind]
      refine ⟨⟨owner, rfl⟩, ?_, ?_, ?_⟩
      · rw [hreads]
      · rw [hreads]
        exact hserver
      · intro kind hlands
        rw [hchildren kind]
        exact hpresent kind hlands

end First

/-! ### The second pass -/

section Second

variable {again : Obstacles} {cluster : Cluster} {key : Key} {blueprint : Blueprint}

theorem yields_ensure_amid {kind : ChildKind} {error : ClusterError}
    (hconflict : error.isAlreadyExists = true)
    (hanswer : Cluster.answerAmid again (.create kind (blueprint.child kind)) cluster =
      (.error error, cluster)) :
    (ensure blueprint kind).Yields (.amid again) cluster
      [⟨.create kind (blueprint.child kind), some (.error error)⟩] .alreadyExists cluster := by
  have hperform : (Backend.amid again).perform (.create kind (blueprint.child kind)) cluster =
      (some (.error error), cluster) := by
    simp only [Backend.amid, Backend.answering, hanswer]
  change (Pass.ask (.create kind (blueprint.child kind)) fun answer => _).Yields _ _ _ _ _
  refine Yields.ask rfl hperform ?_
  change (if error.isAlreadyExists = true then finished EnsureOutcome.alreadyExists
    else failed (.create kind blueprint.key error)).Yields _ _ _ _ _
  rw [if_pos hconflict]
  exact ⟨rfl, rfl⟩

theorem yields_ensureAll_amid
    (hconflicts : ∀ kind, ∃ error : ClusterError, error.isAlreadyExists = true ∧
      Cluster.answerAmid again (.create kind (blueprint.child kind)) cluster =
        (.error error, cluster)) :
    ∃ errors : ChildKind → ClusterError, (ensureAll blueprint).Yields (.amid again) cluster
      (creations blueprint fun kind => .error (errors kind)) () cluster := by
  choose errors hconflict hanswer using hconflicts
  have hensure (kind : ChildKind) := yields_ensure_amid (hconflict kind) (hanswer kind)
  have hend : (finished ()).Yields (.amid again) cluster [] () cluster := ⟨rfl, rfl⟩
  exact ⟨errors, (hensure .deployment).bind ((hensure .service).bind ((hensure .route).bind hend))⟩

/-- A pass that meets nothing but conflicts, and reads what the record says already, only looks. -/
theorem yields_reconcile_amid {now : String} {server : Server} {owner : OwnerReference}
    (hstored : cluster.servers.find? key = some server)
    (howner : server.controllerReference? = some owner)
    (hconflicts : ∀ kind, ∃ error : ClusterError, error.isAlreadyExists = true ∧
      Cluster.answerAmid again
        (.create kind (Blueprint.child ⟨key, some owner, server.spec⟩ kind)) cluster =
          (.error error, cluster))
    (hsettled : some ((readsAmid again key cluster).status key.name now server.status) =
      server.status) :
    ∃ errors : ChildKind → ClusterError, (reconcile now key).Yields (.amid again) cluster
      ([⟨.fetch key, some (.ok (some server))⟩] ++
        (creations ⟨key, some owner, server.spec⟩ (fun kind => .error (errors kind)) ++
          (readings key (readsAmid again key cluster) ++ [])))
      (actionOf (readsAmid again key cluster).overall) cluster := by
  obtain ⟨errors, hensure⟩ := yields_ensureAll_amid hconflicts
  have hfetch : (fetch key).Yields (.amid again) cluster [⟨.fetch key, some (.ok (some server))⟩]
      (some server) cluster := by
    rw [← hstored]
    exact ⟨rfl, rfl⟩
  have hconclude : (conclude now key server.status
      ((readsAmid again key cluster).conditions key.name)).Yields (.amid again) cluster []
      (actionOf (readsAmid again key cluster).overall) cluster := by
    rw [conclude_conditions]
    unfold persist
    rw [if_pos hsettled]
    exact ⟨rfl, rfl⟩
  have htend : (tend now key server).Yields (.amid again) cluster
      (creations ⟨key, some owner, server.spec⟩ (fun kind => .error (errors kind)) ++
        (readings key (readsAmid again key cluster) ++ []))
      (actionOf (readsAmid again key cluster).overall) cluster := by
    unfold tend
    simp only [howner]
    exact hensure.bind (yields_evaluateAll_amid.bind hconclude)
  exact ⟨errors, hfetch.bind htend⟩

end Second

/-- A repeated pass is a no-op. When a pass ended well over a record that exists, whether a
cancellation came too late for it or not, and a second one that is not cancelled runs over what the
first one left, with every read answered as before and every refused creation refused again: then it
writes nothing, creates nothing, leaves everything as it was and gives the same action, whatever its
clock says. -/
theorem reconcile_again {obstacles again : Obstacles} (hrecur : obstacles.Recur again)
    (pace : Pace Cluster) (moment tick : Nat) (now later : String) (key : Key) (cluster : Cluster)
    {server : Server} {action : Action} (hstored : cluster.servers.find? key = some server)
    (hok : ((reconcile now key).run (.cancelledAt (Cluster.answerAmid obstacles) pace moment)
      ⟨cluster, tick, []⟩).1 = .ok action) :
    let after := ((reconcile now key).run
      (.cancelledAt (Cluster.answerAmid obstacles) pace moment) ⟨cluster, tick, []⟩).2.state
    (reconcile later key).run (.amid again) after = (.ok action, after) ∧
      ∀ exchange ∈ (reconcile later key).exchanges (.amid again) after,
        (∀ written status, exchange.call ≠ .writeStatus written status) ∧
          ∀ kind object made, exchange ≠ ⟨.create kind object, some (.ok made)⟩ := by
  intro after
  have hrun : (reconcile now key).run (.amid obstacles) cluster = (.ok action, after) :=
    run_answering_of_cancelledAt _ pace moment hok
  obtain ⟨⟨owner, howner⟩, rfl, hheld, hpresent⟩ := run_reconcile_amid hstored hrun
  -- The second pass reads what the first one read, from a cluster that is the same but for the status.
  have hreads : readsAmid again key after = readsAmid obstacles key after := by
    funext kind
    unfold readsAmid Cluster.answerAmid
    rw [hrecur.reading]
  have hconflicts (kind : ChildKind) :
      ∃ error : ClusterError, error.isAlreadyExists = true ∧ Cluster.answerAmid again
        (.create kind (Blueprint.child ⟨key, some owner, server.spec⟩ kind)) after =
          (.error error, after) := by
    refine after.answerAmid_create_recur kind _ hrecur fun hlands => ?_
    rw [Blueprint.key_child]
    exact hpresent kind hlands
  have hsettled : some ((readsAmid again key after).status key.name later
      (some ((readsAmid obstacles key after).status key.name now server.status))) =
        some ((readsAmid obstacles key after).status key.name now server.status) := by
    rw [hreads, Reads.status_status]
  obtain ⟨errors, hlog, hagain⟩ := yields_reconcile_amid hheld howner hconflicts hsettled
  rw [hreads] at hagain
  refine ⟨hagain, ?_⟩
  rw [hlog]
  intro exchange hmem
  rcases List.mem_append.mp hmem with hfetched | hlater
  · rw [List.mem_singleton.mp hfetched]
    constructor
    · intro written status hcall
      cases hcall
    · intro kind object made hexchange
      cases hexchange
  rcases List.mem_append.mp hlater with hcreated | hread
  · obtain ⟨kind, _, rfl⟩ := List.mem_map.mp hcreated
    constructor
    · intro written status hcall
      cases hcall
    · intro kind object made hexchange
      cases hexchange
  · rw [List.append_nil] at hread
    obtain ⟨kind, _, rfl⟩ := List.mem_map.mp hread
    constructor
    · intro written status hcall
      cases hcall
    · intro kind object made hexchange
      cases hexchange

/-- The deployment is refused, the service cannot be read, and the cancellation comes during the last
call: the second pass finds the status that the first one wrote. -/
theorem reconcile_again_disorderedServer :
    let key : Key := ⟨"default", "web"⟩
    let conflict := Cluster.refusal "deployments are taken" "AlreadyExists" 409
    let outage := Cluster.refusal "out of order" "InternalError" 500
    let obstacles : Obstacles :=
      { creating := fun
          | .deployment => some (conflict, false)
          | _ => none
        reading := fun
          | .service => some (.error outage)
          | _ => none }
    let cluster : Cluster := ⟨⟨[(key, disorderedServer)]⟩, .empty, .empty, .empty⟩
    let pace : Pace Cluster := ⟨fun _ _ => some 0, fun _ _ => 0, fun _ cluster => cluster⟩
    let backend := Backend.cancelledAt (Cluster.answerAmid obstacles) pace 8
    let first := (reconcile "t2" key).run backend ⟨cluster, 0, []⟩
    first.1 = .ok (.requeue 15000) ∧
      (reconcile "t3" key).run (.amid obstacles) first.2.state =
        (.ok (.requeue 15000), first.2.state) := by
  intro key conflict outage obstacles cluster pace backend first
  have hrecur : obstacles.Recur obstacles := by
    refine ⟨rfl, fun kind => ?_⟩
    cases kind with
    | deployment => exact .inr ⟨conflict, rfl, rfl⟩
    | service => exact .inl ⟨rfl, fun error hsome => by cases hsome⟩
    | route => exact .inl ⟨rfl, fun error hsome => by cases hsome⟩
  have hstored : cluster.servers.find? key = some disorderedServer := rfl
  have hok : first.1 = .ok (.requeue 15000) := by decide +kernel
  exact ⟨hok, (reconcile_again hrecur pace 8 0 "t2" "t3" key cluster hstored hok).1⟩

end Pass

end ServerOperator
