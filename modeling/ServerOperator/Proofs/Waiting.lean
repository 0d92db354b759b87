import ServerOperator.Proofs.Contract
import ServerOperator.Proofs.Healing
import ServerOperator.Proofs.Requeue
import ServerOperator.Watch.Ownership

/-!
# Waiting for a change

A pass that found everything ready sets no timer: from then on only a change of the record or of one
of its children leads to another pass. Changes of children are selected by a label and go by the
owner, and passes give both to the children that they create. But they take a child that is there as
it is. So what is waited for leads back to the record as far as others do not put children under its
key that do not.
-/

namespace ServerOperator

/-- A change of the object is selected, and leads to a pass for the key. -/
def Metadata.LeadsTo (key : Key) (metadata : Metadata) : Prop :=
  ownerLabel ∈ (metadata.labels.getD []).map Prod.fst ∧ metadata.ownerKey? = some key

instance (key : Key) (metadata : Metadata) : Decidable (metadata.LeadsTo key) :=
  inferInstanceAs (Decidable (_ ∧ _))

theorem apiGroup?_serverApiVersion : apiGroup? serverApiVersion = some serverGroup := by
  decide +kernel

/-- What is made for a record leads to the record's key. -/
theorem Blueprint.leadsTo_metadata {key : Key} {server : Server} {owner : OwnerReference}
    (hname : server.metadata.name = some key.name)
    (howner : server.controllerReference? = some owner) (spec : ServerSpec) :
    (Blueprint.metadata ⟨key, some owner, spec⟩).LeadsTo key := by
  cases huid : server.metadata.uid with
  | none =>
      have hnone := Server.controllerReference?_eq_none_iff.mpr (.inr huid)
      cases hnone.symm.trans howner
  | some uid =>
      cases (Server.controllerReference?_eq_some hname huid).symm.trans howner
      refine ⟨List.mem_cons_self, ?_⟩
      have hserver : OwnerReference.isServer
          ⟨serverApiVersion, serverKind, key.name, uid, some true, none⟩ = true := by
        simp [OwnerReference.isServer, apiGroup?_serverApiVersion]
      simp [Metadata.ownerKey?, Blueprint.metadata, hserver]

/-! ### What is kept under one key -/

namespace Cluster

/-- Of each child that is held under a key something is known. -/
def ChildrenAt (key : Key) (known : (kind : ChildKind) → kind.Object → Prop)
    (cluster : Cluster) : Prop :=
  ∀ kind object, (cluster.store (.child kind)).find? key = some object → known kind object

variable {key : Key} {known : (kind : ChildKind) → kind.Object → Prop} {cluster : Cluster}

theorem ChildrenAt.insert (hknown : cluster.ChildrenAt key known) {place : Key} {kind : ChildKind}
    {object : kind.Object} (hobject : place = key → known kind object) :
    (cluster.insert (.child kind) place object).ChildrenAt key known := by
  intro other found hfound
  unfold Cluster.insert at hfound
  by_cases hkind : other = kind
  · subst hkind
    rw [store_withStore_self] at hfound
    by_cases hplace : place = key
    · subst hplace
      rw [Store.find?_insert_self] at hfound
      obtain rfl := Option.some.inj hfound
      exact hobject rfl
    · rw [Store.find?_insert_of_ne _ _ (Ne.symm hplace)] at hfound
      exact hknown other found hfound
  · rw [store_withStore_of_ne _ _ fun heq => hkind (Kind.child.inj heq)] at hfound
    exact hknown other found hfound

theorem ChildrenAt.erase (hknown : cluster.ChildrenAt key known) (place : Key) (kind : ChildKind) :
    (cluster.erase (.child kind) place).ChildrenAt key known := by
  intro other found hfound
  unfold Cluster.erase at hfound
  by_cases hkind : other = kind
  · subst hkind
    rw [store_withStore_self] at hfound
    by_cases hplace : key = place
    · subst hplace
      rw [Store.find?_erase_self] at hfound
      cases hfound
    · rw [Store.find?_erase_of_ne _ hplace] at hfound
      exact hknown other found hfound
  · rw [store_withStore_of_ne _ _ fun heq => hkind (Kind.child.inj heq)] at hfound
    exact hknown other found hfound

theorem ChildrenAt.withServers (hknown : cluster.ChildrenAt key known) (servers : Store Server) :
    (cluster.withStore .server servers).ChildrenAt key known := by
  intro kind object hfound
  refine hknown kind object ?_
  cases kind <;> exact hfound

/-- The record under a key, if there is one, carries the name of the key. -/
def NamedAt (key : Key) (cluster : Cluster) : Prop :=
  ∀ metadata ∈ cluster.identity? key, metadata.name = some key.name

theorem NamedAt.withChildren (hnamed : cluster.NamedAt key) (kind : ChildKind)
    (store : Store kind.Object) : (cluster.withStore (.child kind) store).NamedAt key := by
  unfold NamedAt
  rwa [identity?_withStore_child]

theorem NamedAt.insert (hnamed : cluster.NamedAt key) {place : Key} {server : Server}
    (hserver : place = key → server.metadata.name = some key.name) :
    (cluster.insert .server place server).NamedAt key := by
  intro metadata hmem
  rw [identity?_insert] at hmem
  by_cases hkey : key = place
  · rw [if_pos hkey] at hmem
    cases hmem
    exact hserver hkey.symm
  · rw [if_neg hkey] at hmem
    exact hnamed metadata hmem

theorem NamedAt.erase (hnamed : cluster.NamedAt key) (place : Key) :
    (cluster.erase .server place).NamedAt key := by
  intro metadata hmem
  by_cases hkey : key = place
  · subst hkey
    have hnone : (cluster.servers.erase key).find? key = none := cluster.servers.find?_erase_self key
    change metadata ∈ ((cluster.servers.erase key).find? key).map Server.metadata at hmem
    rw [hnone] at hmem
    cases hmem
  · rw [identity?_erase_of_ne cluster hkey] at hmem
    exact hnamed metadata hmem

end Cluster

namespace Pass

/-- What a pass is told under a key: a record carries the key's name, and of a child something is
known. -/
def ToldAt (key : Key) (known : (kind : ChildKind) → kind.Object → Prop) :
    (call : Call) → call.Answer → Prop
  | .fetch place, .ok (some server) => place = key → server.metadata.name = some key.name
  | .get kind place, .ok (some object) => place = key → known kind object
  | _, _ => True

/-- What a pass makes under a key is known. -/
def MakesAt (key : Key) (known : (kind : ChildKind) → kind.Object → Prop) : Call → Prop
  | .create kind object => kind.key object = key → known kind object
  | _ => True

variable {key : Key} {known : (kind : ChildKind) → kind.Object → Prop}

theorem reconcile_makesAt (hmade : ∀ (kind : ChildKind) object,
      (kind.metadata object).LeadsTo key → known kind object) (now : String) (place : Key) :
    (reconcile now place).Keeps (ToldAt key known) (MakesAt key known) fun _ => True := by
  apply keeps_reconcile
  · trivial
  · intro server hnamed
    apply keeps_tend_of_owner
    · intro owner howner kind hplace
      rw [Blueprint.key_child] at hplace
      obtain rfl : place = key := hplace
      refine hmade kind _ ?_
      rw [Blueprint.metadata_child]
      exact Blueprint.leadsTo_metadata (hnamed rfl) howner server.spec
    · intro kind
      trivial
    · intro reads
      trivial

end Pass

/-- Under a key the record carries the key's name, and of each child something is known that is true
of whatever leads to the key. -/
def Contract.underKey (key : Key) (known : (kind : ChildKind) → kind.Object → Prop)
    (hmade : ∀ (kind : ChildKind) object, (kind.metadata object).LeadsTo key → known kind object) :
    Contract where
  holds cluster := cluster.NamedAt key ∧ cluster.ChildrenAt key known
  rely := Pass.ToldAt key known
  guarantee := Pass.MakesAt key known
  error call error := by cases call <;> trivial
  reconcile := Pass.reconcile_makesAt hmade
  answer cluster call hholds hcall := by
    obtain ⟨hnamed, hknown⟩ := hholds
    have hstill : (cluster.answer call).2.NamedAt key := by
      unfold Cluster.NamedAt
      rwa [cluster.identity?_answer]
    cases call with
    | fetch place =>
        refine ⟨?_, hnamed, hknown⟩
        change Pass.ToldAt key known (.fetch place) (.ok (cluster.servers.find? place))
        cases hfound : cluster.servers.find? place with
        | none => trivial
        | some server =>
            rintro rfl
            refine hnamed server.metadata ?_
            rw [Cluster.identity?, hfound]
            rfl
    | get kind place =>
        refine ⟨?_, hnamed, hknown⟩
        change Pass.ToldAt key known (.get kind place)
          (.ok ((cluster.store (.child kind)).find? place))
        cases hfound : (cluster.store (.child kind)).find? place with
        | none => trivial
        | some object =>
            rintro rfl
            exact hknown kind object hfound
    | create kind object =>
        rw [cluster.answer_create] at hstill ⊢
        split
        · exact ⟨trivial, hnamed, hknown⟩
        · rename_i habsent
          rw [if_neg habsent] at hstill
          exact ⟨trivial, hstill, hknown.insert hcall⟩
    | writeStatus place status =>
        simp only [Cluster.answer] at hstill ⊢
        split
        · rename_i server hfound
          simp only [hfound] at hstill
          exact ⟨trivial, hstill, hknown.withServers _⟩
        · exact ⟨trivial, hnamed, hknown⟩

/-- Records that the step stores under a key carry the name of the key. -/
def Step.NamesRecord (key : Key) : Step → Prop
  | .createRecord place metadata _ => place = key → metadata.name = some key.name
  | .editRecord place metadata _ => place = key → metadata.name = some key.name
  | _ => True

section Others

variable {key : Key} {known : (kind : ChildKind) → kind.Object → Prop}

theorem Contract.suits_underKey {step : Step} (hnames : step.NamesRecord key)
    (hstores : ∀ (kind : ChildKind) object, step = .storeChild kind key object → known kind object)
    (hmade : ∀ (kind : ChildKind) object, (kind.metadata object).LeadsTo key → known kind object) :
    (Contract.underKey key known hmade).Suits step := by
  rintro hcall state ⟨hnamed, hknown⟩
  cases step with
  | start now place => exact ⟨hnamed, hknown⟩
  | call index fate => cases hcall
  | storeChild kind place object =>
      refine ⟨hnamed.withChildren kind _, hknown.insert ?_⟩
      rintro rfl
      exact hstores kind object rfl
  | removeChild kind place => exact ⟨hnamed.withChildren kind _, hknown.erase place kind⟩
  | createRecord place metadata spec => exact ⟨hnamed.insert hnames, hknown.withServers _⟩
  | editRecord place metadata spec =>
      simp only [Interleaved.step]
      split
      · exact ⟨hnamed.insert hnames, hknown.withServers _⟩
      · exact ⟨hnamed, hknown⟩
  | removeRecord place => exact ⟨hnamed.erase place, hknown.withServers _⟩

end Others

namespace Interleaved

instance (found : Option (Pass Action)) (action : Action) :
    Decidable (found = some (.finished action)) :=
  match found with
  | some (.finished value) =>
      decidable_of_iff (value = action) ⟨fun heq => heq ▸ rfl, fun heq => by cases heq; rfl⟩
  | some (.failed _) => isFalse nofun
  | some (.ask _ _) => isFalse nofun
  | none => isFalse nofun

/-- Waiting for a change is safe as far as others keep to it. A pass among any others that found a
record and waits for a change has read all three children and found them ready; and each child that it
read leads to its key, if it does where it is itself an object that others put under the key. -/
theorem awaited_children_lead (cluster : Cluster) (earlier later : List Step) (now : String)
    (key : Key) (hnamed : cluster.NamedAt key)
    (hsteps : ∀ step ∈ earlier ++ later, step.NamesRecord key) :
    let state := (⟨cluster, []⟩ : Interleaved).run earlier
    let index := state.passes.length
    let started := state.step (.start now key)
    let log := started.exchanges index later
    let given (kind : ChildKind) (object : kind.Object) : Prop :=
      (cluster.store (.child kind)).find? key = some object ∨
        .storeChild kind key object ∈ earlier ++ later
    (started.run later).passes[index]? = some (.finished .awaitChange) →
      ∀ server, Exchange.mk (.fetch key) (some (.ok (some server))) ∈ log →
        (∀ kind : ChildKind, ∃ object, kind.isReady object = true ∧
          Exchange.mk (.get kind key) (some (.ok (some object))) ∈ log) ∧
        ∀ (kind : ChildKind) object,
          Exchange.mk (.get kind key) (some (.ok (some object))) ∈ log →
            (given kind object → (kind.metadata object).LeadsTo key) →
              (kind.metadata object).LeadsTo key := by
  intro state index started log given hended server hfetched
  let known (kind : ChildKind) (object : kind.Object) : Prop :=
    (kind.metadata object).LeadsTo key ∨ given kind object
  let contract := Contract.underKey key known fun _ _ => .inl
  have hsuits : ∀ step ∈ earlier ++ later, contract.Suits step := by
    intro step hmem
    refine Contract.suits_underKey (hsteps step hmem) ?_ _
    rintro kind object rfl
    exact .inr (.inr hmem)
  rw [List.forall_mem_append] at hsuits
  have hstart : contract.IsKept ⟨cluster, []⟩ :=
    ⟨⟨hnamed, fun kind object hfound => .inr (.inl hfound)⟩, List.forall_mem_nil _⟩
  have hstarted : contract.IsKept started := by
    have hnames : (Step.start now key).NamesRecord key := trivial
    refine (hstart.run hsuits.1).step (Contract.suits_underKey hnames ?_ _)
    intro kind object hstep
    cases hstep
  have hrely := hstarted.rely_of_exchanges hsuits.2 index
  have htrace : (Pass.reconcile now key).Trace log (.ok .awaitChange) := by
    have hpass : started.passes[index]? = some (Pass.reconcile now key) :=
      List.getElem?_concat_length
    obtain ⟨left, hleft, hgoes⟩ := trace_run hpass later
    cases hleft.symm.trans hended
    have hlog := hgoes [] (.ok .awaitChange) (.finished _)
    rwa [List.append_nil] at hlog
  refine ⟨?_, ?_⟩
  · rcases Pass.trace_reconcile_ok htrace with ⟨hlog, _⟩ | ⟨found, rest, hlog, htend⟩
    · rw [hlog, List.mem_singleton] at hfetched
      cases hfetched
    · obtain ⟨owner, created, reads, _, _, rfl, haction⟩ := Pass.trace_tend_ok htend
      have hready := reads.isTrue_overall.mp
        ((Pass.actionOf_eq_awaitChange_iff reads.overall).mp haction.symm)
      intro kind
      obtain ⟨object, hobject, hobjectReady⟩ := kind.foundReady_iff.mp (hready kind)
      refine ⟨object, hobjectReady, ?_⟩
      rw [hlog]
      exact List.mem_cons_of_mem _ (List.mem_append_right _
        (List.mem_append_left _ (Pass.mem_readings_iff.mpr hobject)))
  · intro kind object hread hgiven
    rcases hrely _ hread _ rfl rfl with hleads | hput
    · exact hleads
    · exact hgiven hput

/-- The service is made by the pass, the others are kept ready and labelled by somebody else. -/
theorem awaited_children_lead_createdService :
    let key : Key := ⟨"default", "web"⟩
    let server : Server :=
      ⟨{ Metadata.empty with name := some "web", uid := some "17" }, default, none⟩
    let blueprint : Blueprint := ⟨key, server.controllerReference?, server.spec⟩
    let deployment : Deployment := { blueprint.deployment with
      status := some ⟨none, some [⟨none, none, none, "True", "Available"⟩], none⟩ }
    let route : Route := { blueprint.route with
      status := some ⟨[⟨none, none, [⟨"Admitted", "True", none, none⟩]⟩]⟩ }
    let cluster : Cluster :=
      ⟨⟨[(key, server)]⟩, ⟨[(key, deployment)]⟩, .empty, ⟨[(key, route)]⟩⟩
    let calls : List Step := List.replicate 8 (.call 0 .answered)
    let state := (⟨cluster, []⟩ : Interleaved).run []
    let started := state.step (.start "t1" key)
    let log := started.exchanges state.passes.length calls
    ∃ service, Exchange.mk (.get .service key) (some (.ok (some service))) ∈ log ∧
      service.metadata.LeadsTo key := by
  intro key server blueprint deployment route cluster calls state started log
  have hnamed : cluster.NamedAt key := by
    have hidentity : cluster.identity? key = some server.metadata := rfl
    intro metadata hmem
    rw [hidentity] at hmem
    cases hmem
    rfl
  have hcalls : ∀ step ∈ calls, step.NamesRecord key := by
    intro step hmem
    rw [List.eq_of_mem_replicate hmem]
    trivial
  have hended : (started.run calls).passes[state.passes.length]? =
      some (.finished .awaitChange) := by decide +kernel
  have hfetched : Exchange.mk (.fetch key) (some (.ok (some server))) ∈ log := List.mem_cons_self
  obtain ⟨hreads, hleads⟩ := awaited_children_lead cluster [] calls "t1" key hnamed hcalls hended
    server hfetched
  obtain ⟨service, _, hread⟩ := hreads .service
  refine ⟨service, hread, hleads .service service hread ?_⟩
  rintro (hfound | hstored)
  · cases hfound
  · cases List.eq_of_mem_replicate hstored

/-- A deployment without the label is taken as it is, and so the pass waits for changes of it that are
not selected. And if a record were kept under another name than its own, what is made for it would
lead elsewhere. -/
theorem awaited_child_unlabelled :
    let key : Key := ⟨"default", "web"⟩
    let named (name : String) : Server :=
      ⟨{ Metadata.empty with name := some name, uid := some "17" }, default, none⟩
    let blueprint (server : Server) : Blueprint :=
      ⟨key, server.controllerReference?, server.spec⟩
    let deployment : Deployment := { (blueprint (named "web")).deployment with
      status := some ⟨none, some [⟨none, none, none, "True", "Available"⟩], none⟩ }
    let unlabelled : Deployment :=
      { deployment with metadata := { deployment.metadata with labels := none } }
    let route : Route := { (blueprint (named "web")).route with
      status := some ⟨[⟨none, none, [⟨"Admitted", "True", none, none⟩]⟩]⟩ }
    let cluster (server : Server) (deployment : Deployment) : Cluster :=
      ⟨⟨[(key, server)]⟩, ⟨[(key, deployment)]⟩, .empty, ⟨[(key, route)]⟩⟩
    let pass := Pass.reconcile "t1" key
    let first := cluster (named "web") unlabelled
    let second := cluster (named "other") deployment
    let service := (blueprint (named "other")).service
    ((pass.run Cluster.backend first).1 = .ok .awaitChange ∧
      Exchange.mk (.fetch key) (some (.ok (some (named "web")))) ∈
        pass.exchanges Cluster.backend first ∧
      Exchange.mk (.get .deployment key) (some (.ok (some unlabelled))) ∈
        pass.exchanges Cluster.backend first ∧
      ¬unlabelled.metadata.LeadsTo key) ∧
    (pass.run Cluster.backend second).1 = .ok .awaitChange ∧
      Exchange.mk (.get .service key) (some (.ok (some service))) ∈
        pass.exchanges Cluster.backend second ∧
      ¬service.metadata.LeadsTo key := by
  intro key named blueprint deployment unlabelled route cluster pass first second service
  refine ⟨⟨?_, ?_, ?_, ?_⟩, ?_, ?_, ?_⟩
  · decide +kernel
  · exact List.mem_cons_self
  · exact .tail _ (.tail _ (.tail _ (.tail _ (.head _))))
  · decide +kernel
  · decide +kernel
  · exact .tail _ (.tail _ (.tail _ (.tail _ (.tail _ (.head _)))))
  · decide +kernel

end Interleaved

end ServerOperator
