import ServerOperator.Proofs.Course
import ServerOperator.Proofs.Creation
import ServerOperator.Proofs.Requeue

/-!
# What the verdict depends on

A pass reports what it read, and nothing that was held before. So two passes for one key that read
the same answers end alike, over records with different specs and different histories, at different
times, and whatever else is different around them.
-/

namespace ServerOperator

/-- A record is found that can own children, each child is created or there, and it is read as
given. -/
def Call.Agrees (reads : Reads) : (call : Call) → call.Answer → Prop
  | .fetch _, answer => ∃ server, answer = .ok (some server) ∧ server.metadata.IsIdentified
  | .create _ _, answer => Pass.accepted answer
  | .get kind _, answer => answer = reads kind
  | .writeStatus _ _, _ => True

/-- A pass that is to run over a record with a status: when it runs, and what its calls meet. -/
structure Attempt (σ : Type) where
  now : String
  held : Option ServerStatus
  backend : Backend σ
  lands : σ → Bool
  state : σ

namespace Attempt

open Conditions

def log (attempt : Attempt σ) (key : Key) : List Exchange :=
  (Pass.reconcile attempt.now key).exchanges (attempt.backend.holding attempt.lands key)
    (attempt.state, attempt.held)

def outcome (attempt : Attempt σ) (key : Key) : Except PassError Action :=
  ((Pass.reconcile attempt.now key).run (attempt.backend.holding attempt.lands key)
    (attempt.state, attempt.held)).1

/-- The status on the record in the end. -/
def leaves (attempt : Attempt σ) (key : Key) : Option ServerStatus :=
  ((Pass.reconcile attempt.now key).run (attempt.backend.holding attempt.lands key)
    (attempt.state, attempt.held)).2.2

/-- The pass is answered all that it asks and does not fail over its write, and it reads the given
answers. -/
structure GetsThrough (attempt : Attempt σ) (key : Key) (reads : Reads) : Prop where
  complete : (Pass.reconcile attempt.now key).Complete (attempt.log key)
  unrefused : ∀ source, attempt.outcome key ≠ .error (.status key source)
  agrees : ∀ exchange ∈ attempt.log key, ∀ answer, exchange.answer = some answer →
    exchange.call.Agrees reads answer

variable {attempt : Attempt σ} {key : Key} {reads : Reads}

theorem failsOnly_status (now : String) (key : Key) (reads : Reads) :
    (Pass.reconcile now key).FailsOnly (Call.Agrees reads)
      fun error => ∃ source, error = .status key source := by
  apply Pass.failsOnly_reconcile
  · rintro source ⟨server, hanswer, _⟩
    cases hanswer
  · rintro server ⟨_, ⟨⟩, hidentified⟩
    apply Pass.failsOnly_tend
    · intro hreference
      rcases Server.controllerReference?_eq_none_iff.mp hreference with hname | huid
      · exact absurd hname hidentified.1
      · exact absurd huid hidentified.2
    · intro kind object source haccepted hrefused
      cases hrefused.symm.trans (haccepted source rfl)
    · intro status source _
      exact ⟨source, rfl⟩

theorem GetsThrough.exists_action (hthrough : attempt.GetsThrough key reads) :
    ∃ action, attempt.outcome key = .ok action := by
  have htrace : (Pass.reconcile attempt.now key).Trace (attempt.log key) (attempt.outcome key) :=
    Pass.trace_exchanges _ _ _
  cases houtcome : attempt.outcome key with
  | ok action => exact ⟨action, rfl⟩
  | error error =>
      rw [houtcome] at htrace
      obtain ⟨source, rfl⟩ := (failsOnly_status attempt.now key reads).allowed_of_complete
        hthrough.complete htrace hthrough.agrees
      exact absurd houtcome (hthrough.unrefused source)

/-- A pass that found a record and ends well has read what it read. -/
theorem getsThrough_of_ok {action : Action} (houtcome : attempt.outcome key = .ok action)
    {server : Server}
    (hfetched : Exchange.mk (.fetch key) (some (.ok (some server))) ∈ attempt.log key)
    (hread : ∀ kind, Exchange.mk (.get kind key) (some (reads kind)) ∈ attempt.log key) :
    attempt.GetsThrough key reads := by
  have htrace : (Pass.reconcile attempt.now key).Trace (attempt.log key) (attempt.outcome key) :=
    Pass.trace_exchanges _ _ _
  rw [houtcome] at htrace
  refine ⟨htrace.complete nofun, by rw [houtcome]; nofun, ?_⟩
  rcases Pass.trace_reconcile_ok htrace with ⟨hlog, _⟩ | ⟨found, later, hlog, htend⟩
  · rw [hlog, List.mem_singleton] at hfetched
    cases hfetched
  obtain ⟨owner, created, made, howner, haccepted, rfl, _⟩ := Pass.trace_tend_ok htend
  obtain rfl : reads = made := by
    funext kind
    have hmem := hread kind
    rw [hlog, List.mem_cons, List.mem_append, List.mem_append, Pass.mem_readings_iff] at hmem
    rcases hmem with hfetch | hcreated | hmade | hwritten
    · cases hfetch
    · exact absurd hcreated Pass.get_not_mem_creations
    · exact hmade
    · exact absurd hwritten Pass.get_not_mem_writing
  rw [hlog]
  refine List.forall_mem_cons.mpr ⟨?_, List.forall_mem_append.mpr
    ⟨?_, List.forall_mem_append.mpr ⟨?_, ?_⟩⟩⟩
  · rintro _ ⟨⟩
    refine ⟨found, rfl, ?_, ?_⟩
    · intro hname
      cases howner.symm.trans (Server.controllerReference?_eq_none_iff.mpr (.inl hname))
    · intro huid
      cases howner.symm.trans (Server.controllerReference?_eq_none_iff.mpr (.inr huid))
  · intro exchange hmem
    obtain ⟨kind, _, rfl⟩ := List.mem_map.mp hmem
    rintro _ ⟨⟩
    exact haccepted kind
  · intro exchange hmem
    obtain ⟨kind, _, rfl⟩ := List.mem_map.mp hmem
    rintro _ ⟨⟩
    rfl
  · intro exchange hmem
    unfold Pass.writing at hmem
    split at hmem
    · cases hmem
    · obtain rfl := List.mem_singleton.mp hmem
      exact fun _ _ => trivial

/-- The reads decide how the pass ends, and with the status held before what it leaves. -/
theorem GetsThrough.settles (hthrough : attempt.GetsThrough key reads) :
    attempt.outcome key = .ok (Pass.actionOf reads.overall) ∧
      attempt.leaves key = some (reads.status key.name attempt.now attempt.held) := by
  obtain ⟨action, houtcome⟩ := hthrough.exists_action
  have htrace : (Pass.reconcile attempt.now key).Trace (attempt.log key) (attempt.outcome key) :=
    Pass.trace_exchanges _ _ _
  have hleads : Exchange.Leads key (attempt.log key) attempt.held (attempt.leaves key) :=
    Exchange.leads_exchanges attempt.backend attempt.lands key _ (attempt.state, attempt.held)
  have hagrees := hthrough.agrees
  rw [houtcome] at htrace
  rcases Pass.trace_reconcile_ok htrace with ⟨hlog, _⟩ | ⟨server, later, hlog, htend⟩
  · rw [hlog, List.forall_mem_singleton] at hagrees
    obtain ⟨_, hanswer, _⟩ := hagrees _ rfl
    cases hanswer
  · rw [hlog] at hleads hagrees
    obtain ⟨hheld, hlater⟩ := hleads.fetch
    rw [← hheld] at hlater ⊢
    obtain ⟨read, hread, haction, hleaves⟩ := Pass.leads_tend_ok htend hlater
    obtain rfl : read = reads := by
      funext kind
      exact hagrees _ (List.mem_cons_of_mem _ ((hread kind _).mpr rfl)) _ rfl
    exact ⟨houtcome.trans (congrArg Except.ok haction), hleaves⟩

end Attempt

namespace Conditions

theorem verdictOf_eq_notReady {ready : ChildKind → Bool} {earlier later : List ChildKind}
    {kind : ChildKind} (horder : ChildKind.all = earlier ++ kind :: later)
    (hearlier : ∀ other ∈ earlier, ready other = true) (hkind : ready kind = false) :
    verdictOf ready = notReady kind := by
  have hfirst : ChildKind.all.find? (fun kind => !ready kind) = some kind := by
    rw [List.find?_eq_some_iff_append]
    refine ⟨by rw [hkind]; rfl, earlier, later, horder, ?_⟩
    intro other hmem
    rw [hearlier other hmem]
    rfl
  unfold verdictOf
  rw [hfirst]

end Conditions

namespace Reads

open Conditions

variable (reads : Reads) (name : String)

/-- What the reads say under each type. -/
def verdict : ConditionType → Verdict
  | .deploymentAvailable => (ChildKind.deployment.observed name (reads .deployment)).verdict
  | .serviceAvailable => (ChildKind.service.observed name (reads .service)).verdict
  | .routeAvailable => (ChildKind.route.observed name (reads .route)).verdict
  | .available => reads.overall.verdict

theorem verdict_conditionType (kind : ChildKind) :
    reads.verdict name kind.conditionType = (kind.observed name (reads kind)).verdict := by
  cases kind <;> rfl

theorem verdict_of_mem_reported {new : Condition} (hmem : new ∈ reads.reported name) :
    new.verdict = reads.verdict name new.type := by
  rcases List.mem_append.mp hmem with hchild | hoverall
  · obtain ⟨kind, _, rfl⟩ := List.mem_map.mp hchild
    rw [kind.type_observed, verdict_conditionType]
  · rw [List.mem_singleton.mp hoverall]
    rfl

/-- Whatever was held, the first entry of each type says what the reads say. -/
theorem map_verdict_find?_status (now : String) (held : Option ServerStatus)
    (type : ConditionType) :
    (find? (reads.status name now held).conditions type).map Condition.verdict =
      some (reads.verdict name type) := by
  obtain ⟨new, hmem, rfl⟩ := reads.exists_mem_reported name type
  rw [reads.find?_status name now held hmem, Option.map_some, verdict_merged,
    reads.verdict_of_mem_reported name hmem]

theorem verdict_conditionType_iff (kind : ChildKind) :
    (reads.verdict name kind.conditionType).status = .true ↔
      kind.foundReady (reads kind) = true := by
  rw [verdict_conditionType, ← kind.isTrue_observed name]
  exact decide_eq_true_iff.symm

end Reads

/-- Only what is read makes the verdict. Two passes for a key that get through, and read the same
answers, end with the same action, and leave statuses in which the first entries of all types say the
same, whatever was held and whenever they ran. The entry of a child says whether it was read and is
ready; the overall entry says that all of them are, or else names the first that is not. -/
theorem Attempt.same_verdict (key : Key) (reads : Reads) {first : Attempt σ} {second : Attempt τ}
    (hfirst : first.GetsThrough key reads) (hsecond : second.GetsThrough key reads) :
    let ready (kind : ChildKind) : Prop :=
      ∃ object, reads kind = .ok (some object) ∧ kind.isReady object = true
    ∃ (action : Action) (status other : ServerStatus) (verdict : ConditionType → Verdict),
      (first.outcome key = .ok action ∧ second.outcome key = .ok action) ∧
      (first.leaves key = some status ∧ second.leaves key = some other) ∧
      (∀ type,
        (Conditions.find? status.conditions type).map Condition.verdict = some (verdict type) ∧
          (Conditions.find? other.conditions type).map Condition.verdict = some (verdict type)) ∧
      (∀ kind : ChildKind, (verdict kind.conditionType).status = .true ↔ ready kind) ∧
      ((verdict .available).status = .true ↔ ∀ kind, ready kind) ∧
      ∀ earlier kind later, ChildKind.all = earlier ++ kind :: later →
        (∀ other ∈ earlier, ready other) → ¬ready kind →
          verdict .available = Conditions.notReady kind := by
  intro ready
  have hready (kind : ChildKind) : kind.foundReady (reads kind) = true ↔ ready kind := by
    rw [kind.foundReady_iff]
    exact exists_congr fun object => and_congr_left fun _ => eq_comm
  obtain ⟨haction, hleaves⟩ := hfirst.settles
  obtain ⟨hsame, hother⟩ := hsecond.settles
  refine ⟨_, _, _, reads.verdict key.name, ⟨haction, hsame⟩, ⟨hleaves, hother⟩, ?_, ?_, ?_, ?_⟩
  · intro type
    exact ⟨reads.map_verdict_find?_status key.name first.now first.held type,
      reads.map_verdict_find?_status key.name second.now second.held type⟩
  · intro kind
    rw [reads.verdict_conditionType_iff, hready]
  · change (Conditions.verdictOf _).status = .true ↔ _
    rw [Conditions.verdictOf_status_iff]
    exact forall_congr' hready
  · intro earlier kind later horder hearlier hkind
    refine Conditions.verdictOf_eq_notReady horder ?_ ?_
    · intro other hmem
      exact (hready other).mpr (hearlier other hmem)
    · exact Bool.eq_false_iff.mpr fun hfound => hkind ((hready kind).mp hfound)

/-- A record with a disordered status and one without any: the service cannot be read in either pass,
and is named in both. -/
theorem Attempt.same_verdict_unreadable :
    let key : Key := ⟨"default", "web"⟩
    let deployment : Deployment := { (default : Deployment) with
      status := some ⟨none, some [⟨none, none, none, "True", "Available"⟩], none⟩ }
    let error := Cluster.refusal "no" "Forbidden" 403
    let backend : Backend Cluster := ⟨fun _ => false, fun call cluster => match call with
      | .get .service _ => (some (.error error), cluster)
      | call => Cluster.backend.perform call cluster⟩
    let attempt (now uid : String) (held : Option ServerStatus) : Attempt Cluster :=
      let server : Server :=
        ⟨{ Metadata.empty with name := some "web", uid := some uid }, default, held⟩
      let cluster : Cluster :=
        ⟨⟨[(key, server)]⟩, ⟨[(key, deployment)]⟩, ⟨[(key, default)]⟩, ⟨[(key, default)]⟩⟩
      ⟨now, held, backend, fun _ => false, cluster⟩
    let first := attempt "t1" "17" (some ⟨[⟨.available, .true, "Old", "old", none⟩,
      ⟨.serviceAvailable, .true, "Old", "old", some "t0"⟩, ⟨.available, .unknown, "", "", none⟩]⟩)
    let second := attempt "t2" "18" none
    ∃ status other, first.leaves key = some status ∧ second.leaves key = some other ∧
      ∀ after ∈ [status, other],
        (Conditions.find? after.conditions .available).map Condition.verdict =
          some (Conditions.notReady .service) := by
  intro key deployment error backend attempt first second
  let reads : Reads := ChildKind.family (.ok (some deployment)) (.error error) (.ok (some default))
  have hthrough {now uid : String} {held : Option ServerStatus}
      (houtcome : (attempt now uid held).outcome key = .ok (.requeue 15000)) :
      (attempt now uid held).GetsThrough key reads := by
    refine getsThrough_of_ok houtcome List.mem_cons_self fun kind => ?_
    -- The reads follow the fetch and the three creations.
    cases kind with
    | deployment => exact .tail _ (.tail _ (.tail _ (.tail _ (.head _))))
    | service => exact .tail _ (.tail _ (.tail _ (.tail _ (.tail _ (.head _)))))
    | route => exact .tail _ (.tail _ (.tail _ (.tail _ (.tail _ (.tail _ (.head _))))))
  have hfirst : first.GetsThrough key reads := hthrough (by decide +kernel)
  have hsecond : second.GetsThrough key reads := hthrough (by decide +kernel)
  obtain ⟨_, status, other, verdict, _, ⟨hleaves, hother⟩, hverdict, hchild, _, hnamed⟩ :=
    same_verdict key reads hfirst hsecond
  have hservice : verdict .available = Conditions.notReady .service := by
    refine hnamed [.deployment] .service [.route] rfl ?_ ?_
    · exact List.forall_mem_singleton.mpr ⟨deployment, rfl, by decide⟩
    · rintro ⟨_, ⟨⟩, _⟩
  refine ⟨status, other, hleaves, hother, ?_⟩
  rw [← hservice]
  exact List.forall_mem_cons.mpr
    ⟨(hverdict .available).1, List.forall_mem_singleton.mpr (hverdict .available).2⟩

end ServerOperator
