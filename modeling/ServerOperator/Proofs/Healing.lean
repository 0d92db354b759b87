import ServerOperator.Pass.Reconcile
import ServerOperator.Proofs.Effects
import ServerOperator.Proofs.Report

/-!
# What a pass leaves behind when nothing goes wrong

In a cluster where every call is answered, a pass creates the children that are missing, keeps the
others as they are, and leaves on the record what the children then look like. Everything under
another key stays. The steps below follow the calls of a pass; `reconcile_heals` puts them together.
-/

namespace ServerOperator

theorem Server.controllerReference?_eq_some {server : Server} {name uid : String}
    (hname : server.metadata.name = some name) (huid : server.metadata.uid = some uid) :
    server.controllerReference? =
      some ⟨serverApiVersion, serverKind, name, uid, some true, none⟩ := by
  unfold controllerReference?
  rw [hname, huid]
  rfl

namespace Cluster

variable (cluster : Cluster) (blueprint : Blueprint) (kind : ChildKind)

theorem answer_writeStatus {key : Key} {server : Server} (status : ServerStatus)
    (hstored : cluster.servers.find? key = some server) :
    cluster.answer (.writeStatus key status) =
      (.ok (), cluster.insert .server key { server with status := some status }) := by
  simp only [answer, hstored]

/-- The child that is there, or the one that is made where there is none. -/
def childOr : kind.Object :=
  ((cluster.store (.child kind)).find? blueprint.key).getD (blueprint.child kind)

/-- The cluster after a child was created unless there was one. -/
def ensured : Cluster :=
  if (cluster.store (.child kind)).contains blueprint.key then cluster
  else cluster.insert (.child kind) blueprint.key (blueprint.child kind)

theorem find?_ensured_self :
    ((cluster.ensured blueprint kind).store (.child kind)).find? blueprint.key =
      some (cluster.childOr blueprint kind) := by
  unfold ensured childOr Store.contains
  cases hfind : (cluster.store (.child kind)).find? blueprint.key with
  | none => simp [insert]
  | some object => simp [hfind]

theorem find?_ensured_of_ne_key (other : Kind) {key : Key} (hne : key ≠ blueprint.key) :
    ((cluster.ensured blueprint kind).store other).find? key =
      (cluster.store other).find? key := by
  unfold ensured
  split
  · rfl
  · by_cases hkind : other = .child kind
    · subst hkind
      rw [insert, store_withStore_self, Store.find?_insert_of_ne _ _ hne]
    · rw [insert, store_withStore_of_ne _ _ hkind]

theorem store_ensured_of_ne {other : Kind} (hne : other ≠ .child kind) :
    (cluster.ensured blueprint kind).store other = cluster.store other := by
  unfold ensured
  split
  · rfl
  · exact store_withStore_of_ne cluster _ hne

/-- The cluster after all children were created that were missing. -/
def healed : Cluster :=
  ((cluster.ensured blueprint .deployment).ensured blueprint .service).ensured blueprint .route

theorem store_healed_server : (cluster.healed blueprint).store .server = cluster.store .server := by
  unfold healed
  rw [store_ensured_of_ne _ _ _ (by decide), store_ensured_of_ne _ _ _ (by decide),
    store_ensured_of_ne _ _ _ (by decide)]

theorem find?_healed_of_ne_key (other : Kind) {key : Key} (hne : key ≠ blueprint.key) :
    ((cluster.healed blueprint).store other).find? key = (cluster.store other).find? key := by
  unfold healed
  rw [find?_ensured_of_ne_key _ _ _ _ hne, find?_ensured_of_ne_key _ _ _ _ hne,
    find?_ensured_of_ne_key _ _ _ _ hne]

theorem childOr_ensured_of_ne {other : ChildKind} (hne : other ≠ kind) :
    (cluster.ensured blueprint kind).childOr blueprint other = cluster.childOr blueprint other := by
  unfold childOr
  rw [store_ensured_of_ne]
  intro heq
  exact hne (Kind.child.inj heq)

/-- Each kind is ensured once, and the other kinds do not touch it. -/
theorem find?_healed_self :
    ((cluster.healed blueprint).store (.child kind)).find? blueprint.key =
      some (cluster.childOr blueprint kind) := by
  unfold healed
  cases kind with
  | deployment =>
      rw [store_ensured_of_ne _ _ _ (by decide), store_ensured_of_ne _ _ _ (by decide),
        find?_ensured_self]
  | service =>
      rw [store_ensured_of_ne _ _ _ (by decide), find?_ensured_self,
        childOr_ensured_of_ne _ _ _ (by decide)]
  | route =>
      rw [find?_ensured_self, childOr_ensured_of_ne _ _ _ (by decide),
        childOr_ensured_of_ne _ _ _ (by decide)]

end Cluster

/-! ### Runs of the parts of a pass -/

namespace Pass

variable (cluster : Cluster) (key : Key) (blueprint : Blueprint) (kind : ChildKind)

theorem run_ask_cluster (call : Call) (next : call.Answer → Pass α) :
    (ask call next).run Cluster.backend cluster =
      (next (cluster.answer call).1).run Cluster.backend (cluster.answer call).2 := rfl

theorem run_bind_cluster {pass : Pass α} {rest : α → Pass β} {value : α} {after : Cluster}
    (hpass : pass.run Cluster.backend cluster = (.ok value, after)) :
    (pass >>= rest).run Cluster.backend cluster = (rest value).run Cluster.backend after := by
  rw [run_bind, hpass]

theorem run_fetch_cluster :
    (fetch key).run Cluster.backend cluster = (.ok (cluster.servers.find? key), cluster) := rfl

theorem run_ensure_cluster :
    ∃ outcome, (ensure blueprint kind).run Cluster.backend cluster =
      (.ok outcome, cluster.ensured blueprint kind) := by
  unfold ensure
  change ∃ outcome, (ask (.create kind (blueprint.child kind)) _).run Cluster.backend cluster = _
  rw [run_ask_cluster, Cluster.answer_create, blueprint.key_child kind]
  unfold Cluster.ensured
  split
  · exact ⟨.alreadyExists, rfl⟩
  · exact ⟨.created, rfl⟩

theorem run_ensureAll_cluster :
    (ensureAll blueprint).run Cluster.backend cluster = (.ok (), cluster.healed blueprint) := by
  obtain ⟨_, hdeployment⟩ := run_ensure_cluster cluster blueprint .deployment
  obtain ⟨_, hservice⟩ := run_ensure_cluster (cluster.ensured blueprint .deployment) blueprint .service
  obtain ⟨_, hroute⟩ := run_ensure_cluster
    ((cluster.ensured blueprint .deployment).ensured blueprint .service) blueprint .route
  unfold ensureAll
  rw [run_bind_cluster cluster hdeployment, run_bind_cluster _ hservice, run_bind_cluster _ hroute]
  rfl

theorem run_evaluateAll_cluster (reads : Reads)
    (hreads : ∀ kind, reads kind = .ok ((cluster.store (.child kind)).find? key)) :
    (evaluateAll key).run Cluster.backend cluster = (.ok (reads.conditions key.name), cluster) := by
  have hfun : reads = fun kind => .ok ((cluster.store (.child kind)).find? key) := funext hreads
  subst hfun
  rfl

/-- A record has the status that is made of it, whether that had to be written or not. -/
theorem run_persist_cluster {server : Server} (status : ServerStatus)
    (hstored : cluster.servers.find? key = some server) :
    ∃ after, (persist key server.status status).run Cluster.backend cluster = (.ok (), after) ∧
      after.servers.find? key = some { server with status := some status } ∧
      (∀ kind, after.store (.child kind) = cluster.store (.child kind)) ∧
      ∀ other, other ≠ key → after.servers.find? other = cluster.servers.find? other := by
  unfold persist
  split
  · rename_i hsame
    refine ⟨cluster, rfl, ?_, fun _ => rfl, fun _ _ => rfl⟩
    rw [hstored, hsame]
  · refine ⟨cluster.insert .server key { server with status := some status }, ?_, ?_, ?_, ?_⟩
    · unfold writeStatus
      change (ask (.writeStatus key status) _).run Cluster.backend cluster = _
      rw [run_ask_cluster, cluster.answer_writeStatus status hstored]
      rfl
    · exact Store.find?_insert_self cluster.servers key _
    · intro kind
      exact Cluster.store_withStore_of_ne cluster _ (by simp)
    · intro other hne
      exact Store.find?_insert_of_ne cluster.servers _ hne

theorem run_conclude_cluster {server : Server} (now : String) (reads : Reads)
    (hstored : cluster.servers.find? key = some server) :
    ∃ after, (conclude now key server.status (reads.conditions key.name)).run Cluster.backend cluster =
        (.ok (actionOf reads.overall), after) ∧
      after.servers.find? key =
        some { server with status := some (reads.status key.name now server.status) } ∧
      (∀ kind, after.store (.child kind) = cluster.store (.child kind)) ∧
      ∀ other, other ≠ key → after.servers.find? other = cluster.servers.find? other := by
  obtain ⟨after, hpersist, hserver, hchildren, hothers⟩ := run_persist_cluster cluster key
    (reads.status key.name now server.status) hstored
  refine ⟨after, ?_, hserver, hchildren, hothers⟩
  rw [conclude_conditions, run_bind_cluster cluster hpersist]
  rfl

open Conditions in
/-- A pass in which nothing goes wrong. Afterwards the record has all its children: those that were
there as they were, and for the others what its spec asks for. On the record, the entry of each
child's type tells how that child now is, and the overall entry which child is not ready yet, if
there is one; each is updated where it first stood or else appended. All else stays. -/
theorem reconcile_heals (now : String) {server : Server} {uid : String}
    (hstored : cluster.servers.find? key = some server)
    (hname : server.metadata.name = some key.name) (huid : server.metadata.uid = some uid) :
    let owner : OwnerReference := ⟨serverApiVersion, serverKind, key.name, uid, some true, none⟩
    let child (kind : ChildKind) := cluster.childOr ⟨key, some owner, server.spec⟩ kind
    let overall := Condition.ofVerdict .available (verdictOf fun kind => kind.isReady (child kind))
    let observed := ChildKind.all.map (fun kind => kind.readiness key.name (child kind)) ++ [overall]
    let conditions := observed.foldl (fun held new => upserted new now held)
      (server.status.getD .empty).conditions
    ∃ after, (reconcile now key).run Cluster.backend cluster = (.ok (actionOf overall), after) ∧
      (∀ kind, (after.store (.child kind)).find? key = some (child kind)) ∧
      after.servers.find? key = some { server with status := some ⟨conditions⟩ } ∧
      ∀ kind other, other ≠ key →
        (after.store kind).find? other = (cluster.store kind).find? other := by
  intro owner child overall observed conditions
  let blueprint : Blueprint := ⟨key, some owner, server.spec⟩
  let reads : Reads := fun kind => .ok (some (child kind))
  have howner : server.controllerReference? = some owner :=
    Server.controllerReference?_eq_some hname huid
  -- Making children leaves the record alone, so the status goes onto the record that was fetched.
  have hhealed : (cluster.healed blueprint).servers.find? key = some server := by
    rw [← hstored]
    exact congrArg (fun store => store.find? key) (cluster.store_healed_server blueprint)
  have hreads (kind : ChildKind) :
      reads kind = .ok (((cluster.healed blueprint).store (.child kind)).find? key) :=
    congrArg Except.ok (cluster.find?_healed_self blueprint kind).symm
  obtain ⟨after, hconclude, hserver, hchildren, hothers⟩ :=
    run_conclude_cluster (cluster.healed blueprint) key now reads hhealed
  have hmerged : reads.status key.name now server.status = ⟨conditions⟩ := by
    unfold Reads.status setAll
    simp only [set_eq_upserted]
    rfl
  refine ⟨after, ?_, ?_, ?_, ?_⟩
  · unfold reconcile
    rw [run_bind_cluster cluster (run_fetch_cluster cluster key), hstored]
    change (tend now key server).run Cluster.backend cluster = _
    unfold tend
    simp only [howner]
    rw [run_bind_cluster cluster (run_ensureAll_cluster cluster blueprint),
      run_bind_cluster _ (run_evaluateAll_cluster _ key reads hreads), hconclude]
    rfl
  · intro kind
    rw [hchildren kind]
    exact cluster.find?_healed_self blueprint kind
  · rw [hserver, hmerged]
  · intro kind other hne
    cases kind with
    | server =>
        refine (hothers other hne).trans ?_
        exact cluster.find?_healed_of_ne_key blueprint .server hne
    | child kind =>
        rw [hchildren kind]
        exact cluster.find?_healed_of_ne_key blueprint (.child kind) hne

/-- A record whose overall entry stands first, with a second entry of the same type behind it. -/
def disorderedServer : Server where
  metadata := { Metadata.empty with name := some "web", uid := some "17" }
  spec := ⟨"server:1", none, none⟩
  status := some ⟨[⟨.available, .true, "Old", "old", some "t0"⟩,
    ⟨.serviceAvailable, .true, "Old", "old", some "t1"⟩, ⟨.available, .unknown, "Old", "old", none⟩]⟩

/-- Only the service is there: the pass makes the others, and finds both not ready yet. -/
theorem reconcile_heals_disorderedServer :
    let key : Key := ⟨"default", "web"⟩
    let service : Service := ⟨.empty, none, none⟩
    let cluster : Cluster := ⟨⟨[(key, disorderedServer)]⟩, .empty, ⟨[(key, service)]⟩, .empty⟩
    ∃ after, (reconcile "t2" key).run Cluster.backend cluster = (.ok (.requeue 15000), after) ∧
      after.services.find? key = some service ∧
      after.servers.find? key = some { disorderedServer with status := some ⟨[
        ⟨.available, .false, "DeploymentNotReady", "Deployment is not yet ready", some "t2"⟩,
        ⟨.serviceAvailable, .true, "ServiceReady", "Service web exists and is available", some "t1"⟩,
        ⟨.available, .unknown, "Old", "old", none⟩,
        ⟨.deploymentAvailable, .false, "DeploymentNotReady", "Deployment web is not yet available",
          some "t2"⟩,
        ⟨.routeAvailable, .false, "RouteNotAdmitted",
          "Route web has not been admitted by a router yet", some "t2"⟩]⟩ } := by
  intro key service cluster
  have hstored : cluster.servers.find? key = some disorderedServer := rfl
  have huid : disorderedServer.metadata.uid = some "17" := rfl
  obtain ⟨after, hrun, hchildren, hserver, _⟩ :=
    reconcile_heals cluster key "t2" hstored rfl huid
  refine ⟨after, hrun, hchildren .service, ?_⟩
  rw [hserver]
  decide

end Pass

end ServerOperator
