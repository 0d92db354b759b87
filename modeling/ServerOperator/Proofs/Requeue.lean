import ServerOperator.Cluster.Basic
import ServerOperator.Proofs.Environment
import ServerOperator.Proofs.Persistence

/-!
# When a record is looked at again

A pass that found a record leaves it alone only if every child was read and found ready. Then the
record says so too, however much of that was there before. In all other cases a timer is set, unless
the pass was cancelled. What is held on the record is followed along the exchanges of the pass.
-/

namespace ServerOperator

theorem Settings.le_errorRequeue_normalized (settings : Settings) :
    1000 ≤ settings.normalized.errorRequeue := by
  have hseconds := settings.toNat_errorRequeueSeconds_normalized
  unfold errorRequeue
  omega

namespace Reads

variable {reads : Reads} {name : String}

theorem status_reported {new : Condition} (hmem : new ∈ reads.reported name)
    (hready : ∀ kind : ChildKind, kind.foundReady (reads kind) = true) :
    new.status = .true ∧ (new.type = .available → new.reason = "AllComponentsReady") := by
  rcases List.mem_append.mp hmem with hchild | hoverall
  · obtain ⟨kind, _, rfl⟩ := List.mem_map.mp hchild
    constructor
    · have htrue := kind.isTrue_observed name (reads kind)
      rw [hready kind] at htrue
      exact of_decide_eq_true htrue
    · intro htype
      rw [kind.type_observed] at htype
      cases kind <;> cases htype
  · rw [List.mem_singleton.mp hoverall]
    unfold overall
    rw [Conditions.verdictOf_eq_allReady hready]
    exact ⟨rfl, fun _ => rfl⟩

/-- After such a pass the first entry of every type says so. -/
theorem find?_status_of_ready (now : String) (fetched : Option ServerStatus)
    (hready : ∀ kind : ChildKind, kind.foundReady (reads kind) = true) (type : ConditionType) :
    ∃ condition, Conditions.find? (reads.status name now fetched).conditions type =
        some condition ∧ condition.status = .true ∧
      (type = .available → condition.reason = "AllComponentsReady") := by
  obtain ⟨new, hmem, rfl⟩ := reads.exists_mem_reported name type
  have hverdict := Conditions.verdict_merged
    (Conditions.find? (fetched.getD .empty).conditions new.type) new now
  have hstatus := congrArg Verdict.status hverdict
  have hreason := congrArg Verdict.reason hverdict
  obtain ⟨htrue, hoverall⟩ := status_reported hmem hready
  refine ⟨_, reads.find?_status name now fetched hmem, hstatus.trans htrue, ?_⟩
  intro havailable
  exact hreason.trans (hoverall havailable)

end Reads

namespace Pass

theorem actionOf_eq_awaitChange_iff (overall : Condition) :
    actionOf overall = .awaitChange ↔ overall.isTrue = true := by
  unfold actionOf
  split
  · rename_i htrue
    exact ⟨fun _ => htrue, fun _ => rfl⟩
  · rename_i hfalse
    refine ⟨fun haction => ?_, fun htrue => absurd htrue hfalse⟩
    cases haction

variable {key : Key} {kind : ChildKind}

/-- Each child is read once, so an answer to a read of it is the one that counts. -/
theorem mem_readings_iff {reads : Reads} {answer : Except ClusterError (Option kind.Object)} :
    Exchange.mk (.get kind key) (some answer) ∈ readings key reads ↔ answer = reads kind := by
  unfold readings
  rw [List.mem_map]
  constructor
  · rintro ⟨other, _, hexchange⟩
    cases hexchange
    rfl
  · rintro rfl
    exact ⟨kind, kind.mem_all, rfl⟩

theorem get_not_mem_creations {blueprint : Blueprint}
    {created : (kind : ChildKind) → Except ClusterError kind.Object}
    {answer : Except ClusterError (Option kind.Object)} :
    Exchange.mk (.get kind key) (some answer) ∉ creations blueprint created := by
  intro hmem
  obtain ⟨other, _, hexchange⟩ := List.mem_map.mp hmem
  cases hexchange

theorem get_not_mem_writing {fetched : Option ServerStatus} {status : ServerStatus}
    {answer : Except ClusterError (Option kind.Object)} :
    Exchange.mk (.get kind key) (some answer) ∉ writing key fetched status := by
  unfold writing
  split
  · exact List.not_mem_nil
  · intro hmem
    cases List.mem_singleton.mp hmem

/-- A pass over a record that ends well: the reads are those in its log, and they decide both the
action and what the record holds in the end. -/
theorem leads_tend_ok {now : String} {server : Server} {log : List Exchange} {action : Action}
    {after : Option ServerStatus} (htrace : (tend now key server).Trace log (.ok action))
    (hleads : Exchange.Leads key log server.status after) :
    ∃ reads : Reads,
      (∀ (kind : ChildKind) answer,
        Exchange.mk (.get kind key) (some answer) ∈ log ↔ answer = reads kind) ∧
      action = actionOf reads.overall ∧
      after = some (reads.status key.name now server.status) := by
  obtain ⟨owner, created, reads, _, _, rfl, haction⟩ := trace_tend_ok htrace
  refine ⟨reads, ?_, haction, ?_⟩
  · intro kind answer
    rw [List.mem_append, List.mem_append, mem_readings_iff]
    constructor
    · rintro (hcreated | hread | hwritten)
      · exact absurd hcreated get_not_mem_creations
      · exact hread
      · exact absurd hwritten get_not_mem_writing
    · intro hread
      exact .inr (.inl hread)
  · obtain ⟨created, hcreations, hlater⟩ := hleads.append
    obtain ⟨read, hreadings, hwriting⟩ := hlater.append
    -- Neither creating nor reading a child touches what is held.
    obtain rfl : created = server.status := by
      refine hcreations.eq_of_no_write fun exchange hmem status hcall => ?_
      obtain ⟨kind, _, rfl⟩ := List.mem_map.mp hmem
      cases hcall
    obtain rfl : read = server.status := by
      refine hreadings.eq_of_no_write fun exchange hmem status hcall => ?_
      obtain ⟨kind, _, rfl⟩ := List.mem_map.mp hmem
      cases hcall
    exact hwriting.writing

/-- No record is abandoned. A pass that fails is tried again, unless it was cancelled. One that found
a record and ends well leaves it alone exactly if it read each child and found it ready, and then the
record holds a status in which the first entry of every type says so; else it sets its own timer. -/
theorem action_after_reconcile (settings : Settings) (backend : Backend σ) (lands : σ → Bool)
    (now : String) (key : Key) (state : σ) (held : Option ServerStatus) :
    let log := (reconcile now key).exchanges (backend.holding lands key) (state, held)
    let ended := (reconcile now key).run (backend.holding lands key) (state, held)
    let delay := settings.normalized.errorRequeue
    let action := Action.after delay ended.1
    let allReady := ∀ kind : ChildKind, ∃ object,
      Exchange.mk (.get kind key) (some (.ok (some object))) ∈ log ∧ kind.isReady object = true
    1000 ≤ delay ∧
      (∀ error, ended.1 = .error error →
        action = if error = .cancelled then .awaitChange else .requeue delay) ∧
      ∀ server value, Exchange.mk (.fetch key) (some (.ok (some server))) ∈ log →
        ended.1 = .ok value →
          (action = .awaitChange ↔ allReady) ∧
          (¬allReady → action = .requeue 15000) ∧
          (action = .awaitChange → ∃ status, ended.2.2 = some status ∧
            ∀ type, ∃ condition, Conditions.find? status.conditions type = some condition ∧
              condition.status = .true ∧
              (type = .available → condition.reason = "AllComponentsReady")) := by
  intro log ended delay action allReady
  refine ⟨settings.le_errorRequeue_normalized, ?_, ?_⟩
  · intro error herror
    change Action.after delay ended.1 = _
    rw [herror]
    cases error <;> rfl
  · intro server value hfetched hok
    have htrace : (reconcile now key).Trace log ended.1 := trace_exchanges _ _ _
    have hleads : Exchange.Leads key log held ended.2.2 :=
      Exchange.leads_exchanges backend lands key (reconcile now key) (state, held)
    rw [hok] at htrace
    rcases trace_reconcile_ok htrace with ⟨hlog, _⟩ | ⟨found, later, hlog, htend⟩
    · rw [hlog] at hfetched
      cases List.mem_singleton.mp hfetched
    · rw [hlog] at hleads
      obtain ⟨rfl, hlater⟩ := hleads.fetch
      obtain ⟨reads, hreads, hvalue, hheld⟩ := leads_tend_ok htend hlater
      have hready : allReady ↔ ∀ kind : ChildKind, kind.foundReady (reads kind) = true := by
        refine forall_congr' fun kind => ?_
        rw [kind.foundReady_iff]
        refine exists_congr fun object => and_congr_left fun _ => ?_
        rw [hlog, List.mem_cons, ← hreads]
        exact or_iff_right fun hexchange => by cases hexchange
      have haction : action = actionOf reads.overall := by
        change Action.after delay ended.1 = _
        rw [hok, ← hvalue]
        rfl
      have hiff : action = .awaitChange ↔ allReady := by
        rw [haction, actionOf_eq_awaitChange_iff, reads.isTrue_overall, hready]
      refine ⟨hiff, ?_, ?_⟩
      · intro hnot
        rw [haction]
        refine if_neg fun htrue => hnot (hiff.mp ?_)
        rw [haction, actionOf_eq_awaitChange_iff]
        exact htrue
      · intro hawait
        refine ⟨_, hheld, fun type => ?_⟩
        exact Reads.find?_status_of_ready now _ (hready.mp (hiff.mp hawait)) type

/-- A record with three ready children, and no status yet: it is left alone. -/
theorem action_after_reconcile_ready :
    let key : Key := ⟨"default", "web"⟩
    let server : Server :=
      ⟨{ Metadata.empty with name := some "web", uid := some "17" }, default, none⟩
    let deployment : Deployment := { (default : Deployment) with
      status := some ⟨none, some [⟨none, none, none, "True", "Available"⟩], none⟩ }
    let route : Route := { (default : Route) with
      status := some ⟨[⟨none, none, [⟨"Admitted", "True", none, none⟩]⟩]⟩ }
    let cluster : Cluster :=
      ⟨⟨[(key, server)]⟩, ⟨[(key, deployment)]⟩, ⟨[(key, default)]⟩, ⟨[(key, route)]⟩⟩
    let backend := Cluster.backend.holding (fun _ => false) key
    let ended := (reconcile "t1" key).run backend (cluster, none)
    Action.after Settings.initial.normalized.errorRequeue ended.1 = .awaitChange := by
  intro key server deployment route cluster backend ended
  obtain ⟨_, _, hfound⟩ := action_after_reconcile Settings.initial Cluster.backend
    (fun _ => false) "t1" key cluster none
  have hok : ended.1 = .ok .awaitChange := by decide +kernel
  obtain ⟨hiff, _, _⟩ := hfound server .awaitChange List.mem_cons_self hok
  refine hiff.mpr fun kind => ?_
  -- The reads follow the fetch and the three creations.
  cases kind with
  | deployment => exact ⟨deployment, .tail _ (.tail _ (.tail _ (.tail _ (.head _)))), by decide⟩
  | service =>
      exact ⟨default, .tail _ (.tail _ (.tail _ (.tail _ (.tail _ (.head _))))), rfl⟩
  | route =>
      exact ⟨route, .tail _ (.tail _ (.tail _ (.tail _ (.tail _ (.tail _ (.head _)))))), by decide⟩

end Pass

end ServerOperator
