import ServerOperator.Controller.Scenario
import ServerOperator.Proofs.Waiting

/-!
# Children and their owner

What a record is called is told in four ways: by the record itself, by the metadata of the children
that are made for it, by the reference to their owner that these carry, and by the key under which
they are read. All four name the same key, so a child is read where it was put, and whatever happens
to it leads back to its record.
-/

namespace ServerOperator

/-- A pass under the record's key that found the record asks for the object to be created. It may
run at any time, its calls may be answered in any way, and it may be stopped anywhere. -/
def Server.HandsOver (server : Server) (kind : ChildKind) (object : kind.Object) : Prop :=
  ∃ now log outcome answer, (Pass.reconcile now server.metadata.key).Trace log outcome ∧
    Exchange.mk (.fetch server.metadata.key) (some (.ok (some server))) ∈ log ∧
    Exchange.mk (.create kind object) answer ∈ log

namespace Server

variable {server : Server} {kind : ChildKind} {object : kind.Object}

theorem HandsOver.eq_child (hhands : server.HandsOver kind object) :
    ∃ owner, server.controllerReference? = some owner ∧
      object = Blueprint.child ⟨server.metadata.key, some owner, server.spec⟩ kind := by
  obtain ⟨now, log, outcome, answer, htrace, hfetched, hcreated⟩ := hhands
  obtain ⟨later, rfl, htend⟩ := Pass.trace_reconcile_found htrace hfetched
  have hkeeps : (Pass.tend now server.metadata.key server).Keeps (fun _ _ => True)
      (fun call => ∀ kind object, call = .create kind object →
        ∃ owner, server.controllerReference? = some owner ∧
          object = Blueprint.child ⟨server.metadata.key, some owner, server.spec⟩ kind)
      fun _ => True := by
    apply Pass.keeps_tend_of_owner
    · intro owner howner made kind object hcall
      cases hcall
      exact ⟨owner, howner, rfl⟩
    · intro made kind object hcall
      cases hcall
    · intro reads kind object hcall
      cases hcall
  rcases List.mem_cons.mp hcreated with hfetch | hmem
  · cases hfetch
  · exact hkeeps.guarantee_of_trace htend (fun _ _ _ _ => trivial) _ hmem kind object rfl

theorem handsOver_child {owner : OwnerReference} (howner : server.controllerReference? = some owner)
    (kind : ChildKind) :
    server.HandsOver kind
      (Blueprint.child ⟨server.metadata.key, some owner, server.spec⟩ kind) := by
  let key := server.metadata.key
  let blueprint : Blueprint := ⟨key, some owner, server.spec⟩
  let created : List Exchange :=
    ChildKind.all.map fun kind =>
      ⟨.create kind (blueprint.child kind), some (.ok (blueprint.child kind))⟩
  have htend : (Pass.tend "" key server).Trace created (.error .cancelled) := by
    unfold Pass.tend
    simp only [howner]
    refine .answered (.create .deployment _) _ (.ok blueprint.deployment) ?_
    refine .answered (.create .service _) _ (.ok blueprint.service) ?_
    refine .answered (.create .route _) _ (.ok blueprint.route) ?_
    exact .stopped (.get .deployment key) _
  refine ⟨"", _, _, some (.ok (blueprint.child kind)),
    .answered (.fetch key) _ (.ok (some server)) htend, List.mem_cons_self, ?_⟩
  exact List.mem_cons_of_mem _ (List.mem_map_of_mem kind.mem_all)

end Server

/-! ### Where an object is put and read -/

theorem Call.request_create {kind : ChildKind} {object : kind.Object} {sent : HttpRequest}
    (hsent : (Call.create kind object).request = .ok sent) :
    Uri.ofText? (Kind.collection (.child kind)
        (some (kind.metadata object).namespaceOrDefault) ++ "?") = .ok sent.uri ∧
      sent.body = some (kind.toJson object) := by
  rw [Call.request] at hsent
  cases huri : Uri.ofText? (Kind.collection (.child kind)
      (some (kind.metadata object).namespaceOrDefault) ++ "?") with
  | error error =>
      simp only [huri] at hsent
      cases hsent
  | ok uri =>
      simp only [huri] at hsent
      cases hsent
      exact ⟨rfl, rfl⟩

theorem Call.request_get {kind : ChildKind} {key : Key} {sent : HttpRequest}
    (hsent : (Call.get kind key).request = .ok sent) :
    Uri.ofText? (Kind.collection (.child kind) (some key.namespaceName) ++ "/" ++ key.name) =
      .ok sent.uri := by
  rw [Call.request, Call.read, Call.objectPath] at hsent
  split at hsent
  · cases hsent
  · change (Uri.ofText? (Kind.collection (.child kind) (some key.namespaceName) ++ "/" ++ key.name)
      >>= _) = _ at hsent
    cases huri : Uri.ofText?
        (Kind.collection (.child kind) (some key.namespaceName) ++ "/" ++ key.name) with
    | error error =>
        rw [huri] at hsent
        cases hsent
    | ok uri =>
        rw [huri] at hsent
        cases hsent
        rfl

/-- How an object is tied to the record that it is made for. -/
structure Server.Binds (server : Server) (kind : ChildKind) (object : kind.Object) : Prop where
  key : kind.key object = server.metadata.key
  /-- It is posted, under its name, to the collection in which it is then read by that name. -/
  name : (kind.metadata object).name = some server.metadata.key.name
  posted : ∀ sent, (Call.create kind object).request = .ok sent →
    Uri.ofText? (Kind.collection (.child kind) (some server.metadata.key.namespaceName) ++ "?") =
        .ok sent.uri ∧
      sent.body = some (kind.toJson object)
  read : ∀ sent, (Call.get kind server.metadata.key).request = .ok sent →
    Uri.ofText? (Kind.collection (.child kind) (some server.metadata.key.namespaceName) ++ "/" ++
      server.metadata.key.name) = .ok sent.uri
  owner : ∃ owner, server.controllerReference? = some owner ∧ owner.controller = some true ∧
    some owner.name = server.metadata.name ∧ some owner.uid = server.metadata.uid ∧
    (kind.metadata object).ownerReferences = some [owner]
  label : ((kind.metadata object).labels.getD []).lookup ownerLabel = server.metadata.name
  /-- Whatever else of it changes later, a change leads to the record and to no other. -/
  followed : ∀ later : kind.Object,
    (kind.metadata later).name = (kind.metadata object).name →
    (kind.metadata later).namespaceName = (kind.metadata object).namespaceName →
    (kind.metadata later).ownerReferences = (kind.metadata object).ownerReferences →
      (kind.metadata later).ownerKey? = some server.metadata.key ∧
      (Controller.Reference.triggered? (.child kind) later).map Controller.Reference.key =
        some server.metadata.key ∧
      (server.metadata.namespaceName.isSome = true →
        Controller.Reference.triggered? (.child kind) later =
          Controller.Reference.triggered? .server server)

theorem Metadata.key_name {metadata : Metadata} {name : String}
    (hname : metadata.name = some name) : metadata.key.name = name := by
  unfold key
  rw [hname]
  rfl

/-- Only name, namespace and owners decide which record an object belongs to. -/
theorem Metadata.ownerKey?_congr {first second : Metadata} (hname : first.name = second.name)
    (hnamespace : first.namespaceName = second.namespaceName)
    (howners : first.ownerReferences = second.ownerReferences) :
    first.ownerKey? = second.ownerKey? := by
  unfold ownerKey?
  rw [hname, hnamespace, howners]

theorem Server.binds_child {server : Server} {name uid : String}
    (hname : server.metadata.name = some name) (huid : server.metadata.uid = some uid)
    {owner : OwnerReference} (howner : server.controllerReference? = some owner)
    (kind : ChildKind) :
    server.Binds kind (Blueprint.child ⟨server.metadata.key, some owner, server.spec⟩ kind) := by
  let blueprint : Blueprint := ⟨server.metadata.key, some owner, server.spec⟩
  have hkey : server.metadata.key.name = name := Metadata.key_name hname
  have hmetadata : kind.metadata (blueprint.child kind) = blueprint.metadata :=
    blueprint.metadata_child kind
  have hleads : blueprint.metadata.LeadsTo server.metadata.key :=
    Blueprint.leadsTo_metadata (by rw [hkey, hname]) howner server.spec
  refine ⟨blueprint.key_child kind, ?_, ?_, fun _ => Call.request_get, ?_, ?_, ?_⟩
  · rw [hmetadata]
    rfl
  · intro sent hsent
    have hposted := Call.request_create hsent
    rwa [hmetadata] at hposted
  · have hsame := (Server.controllerReference?_eq_some hname huid).symm.trans howner
    obtain rfl := Option.some.inj hsame
    exact ⟨_, howner, rfl, hname.symm, huid.symm, by rw [hmetadata]; rfl⟩
  · rw [hmetadata, hname, ← hkey]
    exact List.lookup_cons_self
  · intro later hlaterName hlaterNamespace hlaterOwners
    have howned : (kind.metadata later).ownerKey? = some server.metadata.key := by
      rw [Metadata.ownerKey?_congr hlaterName hlaterNamespace hlaterOwners, hmetadata]
      exact hleads.2
    have htriggered : Controller.Reference.triggered? (.child kind) later =
        some (Controller.Reference.ofOwnerKey server.metadata.key) :=
      congrArg (Option.map Controller.Reference.ofOwnerKey) howned
    refine ⟨howned, ?_, ?_⟩
    · rw [htriggered]
      rfl
    · intro hplaced
      obtain ⟨place, hplace⟩ := Option.isSome_iff_exists.mp hplaced
      have hnamespace : server.metadata.key.namespaceName = place := by
        unfold Metadata.key Metadata.namespaceOrDefault
        rw [hplace]
        rfl
      rw [htriggered, Controller.Reference.ofOwnerKey, hnamespace, ← hplace]
      rfl

/-- Children and their owner stay correlated. Under the key of a record with a name and a uid, passes
hand over an object of each kind to be created. Each is tied to the record, whatever the record asks
for: it is read where it is posted, the record is its one owner and its label, and all its changes
lead to the record. Objects made for records with different keys have different keys. -/
theorem Server.children_correlate (server : Server) {name uid : String}
    (hname : server.metadata.name = some name) (huid : server.metadata.uid = some uid) :
    (∀ kind, ∃ object, server.HandsOver kind object) ∧
      ∀ kind object, server.HandsOver kind object →
        server.Binds kind object ∧
          ∀ (other : Server) (otherKind : ChildKind) (otherObject : otherKind.Object),
            other.HandsOver otherKind otherObject → other.metadata.key ≠ server.metadata.key →
              otherKind.key otherObject ≠ kind.key object := by
  have howner := Server.controllerReference?_eq_some hname huid
  refine ⟨fun kind => ⟨_, server.handsOver_child howner kind⟩, ?_⟩
  intro kind object hhands
  obtain ⟨owner, howner, rfl⟩ := hhands.eq_child
  refine ⟨server.binds_child hname huid howner kind, ?_⟩
  intro other otherKind otherObject hother hkey
  obtain ⟨_, _, rfl⟩ := hother.eq_child
  rwa [Blueprint.key_child, Blueprint.key_child]

/-- A record without a namespace: its service is read in the default one, and still leads back there
when it has lost its label. A record of the same name elsewhere has a route of another key. -/
theorem Server.children_correlate_defaultNamespace :
    let server : Server :=
      ⟨{ Metadata.empty with name := some "web", uid := some "17" }, default, none⟩
    let other : Server := ⟨{ server.metadata with namespaceName := some "prod" }, default, none⟩
    ∃ service route, server.HandsOver .service service ∧ other.HandsOver .route route ∧
      service.metadata.key = ⟨"default", "web"⟩ ∧ route.metadata.key ≠ service.metadata.key ∧
      Metadata.ownerKey? { service.metadata with labels := none } = some ⟨"default", "web"⟩ := by
  intro server other
  obtain ⟨hhanded, hbound⟩ := server.children_correlate rfl rfl
  obtain ⟨service, hservice⟩ := hhanded .service
  obtain ⟨route, hroute⟩ :=
    (other.children_correlate rfl rfl).1 .route
  obtain ⟨hbinds, hapart⟩ := hbound .service service hservice
  let unlabelled : Service := { service with metadata := { service.metadata with labels := none } }
  exact ⟨service, route, hservice, hroute, hbinds.key, hapart other .route route hroute (by decide),
    (hbinds.followed unlabelled rfl rfl rfl).1⟩

end ServerOperator
