import ServerOperator.Proofs.Contract
import ServerOperator.Proofs.Upsert

/-!
# Stored statuses are whole

A status that a pass writes has one entry for each type, in the order of the types, all of them
stamped, and its overall entry is the verdict on the very list that it stands in. A pass makes such
a status of any it may have fetched, be it older than what is stored by then; so in whatever way
passes are interleaved, nothing else is ever stored.
-/

namespace ServerOperator

/-- One stamped entry for each type, with the overall entry the verdict on the list itself. -/
structure ServerStatus.IsWhole (status : ServerStatus) : Prop where
  types : status.conditions.map Condition.type = ConditionType.all
  stamped : ∀ condition ∈ status.conditions, condition.lastTransitionTime.isSome = true
  overall : ∀ condition ∈ status.conditions, condition.type = .available →
    condition.verdict = (Conditions.overall status.conditions).verdict

namespace Conditions

theorem find?_of_mem {conditions : List Condition}
    (hdistinct : (conditions.map Condition.type).Nodup) {condition : Condition}
    (hmem : condition ∈ conditions) : find? conditions condition.type = some condition := by
  induction conditions with
  | nil => cases hmem
  | cons first rest ih =>
      rw [List.map_cons, List.nodup_cons] at hdistinct
      obtain ⟨hfirst, hrest⟩ := hdistinct
      unfold find?
      rcases List.mem_cons.mp hmem with rfl | hlater
      · exact List.find?_cons_of_pos (decide_eq_true rfl)
      · have hne : first.type ≠ condition.type := by
          intro heq
          exact hfirst (heq ▸ List.mem_map_of_mem hlater)
        rw [List.find?_cons_of_neg (by simpa using hne)]
        exact ih hrest hlater

theorem stamped_set (new : Condition) (now : String) {conditions : List Condition}
    (hstamped : ∀ condition ∈ conditions, condition.lastTransitionTime.isSome = true) :
    ∀ condition ∈ (set new now conditions).1, condition.lastTransitionTime.isSome = true := by
  obtain ⟨updated, changed, hupserts⟩ := exists_upserts new now conditions
  rw [hupserts.set_eq]
  cases hupserts with
  | appended habsent =>
      rw [List.forall_mem_append, List.forall_mem_singleton]
      exact ⟨hstamped, rfl⟩
  | replaced hearlier htype hverdict =>
      rw [List.forall_mem_append, List.forall_mem_cons] at hstamped ⊢
      obtain ⟨hbefore, hheld, hafter⟩ := hstamped
      refine ⟨hbefore, ?_, hafter⟩
      dsimp only
      split
      · exact hheld
      · rfl
  | kept hfirst htype hverdict => exact hstamped

theorem stamped_setAll (observed : List Condition) (now : String) {conditions : List Condition}
    (hstamped : ∀ condition ∈ conditions, condition.lastTransitionTime.isSome = true) :
    ∀ condition ∈ setAll observed now conditions,
      condition.lastTransitionTime.isSome = true := by
  induction observed generalizing conditions with
  | nil => exact hstamped
  | cons new rest ih => exact ih (stamped_set new now hstamped)

end Conditions

/-- Out of no status, or out of a whole one, a pass makes a whole one. -/
theorem Reads.isWhole_status (reads : Reads) (name now : String) {fetched : Option ServerStatus}
    (hfetched : ∀ status ∈ fetched, status.IsWhole) : (reads.status name now fetched).IsWhole := by
  have htypes : (reads.status name now fetched).conditions.map Condition.type =
      ConditionType.all := by
    unfold status
    rw [Conditions.map_type_setAll, map_type_reported]
    cases fetched with
    | none => decide
    | some status =>
        change ConditionType.all.foldl _ (status.conditions.map Condition.type) = _
        rw [(hfetched status rfl).types]
        decide
  have hstamped : ∀ condition ∈ (fetched.getD .empty).conditions,
      condition.lastTransitionTime.isSome = true := by
    cases fetched with
    | none => exact List.forall_mem_nil _
    | some status => exact (hfetched status rfl).stamped
  refine ⟨htypes, Conditions.stamped_setAll _ now hstamped, ?_⟩
  intro condition hmem htype
  -- Each type stands once, so the overall entry is the one that was set.
  have hdistinct : ((reads.status name now fetched).conditions.map Condition.type).Nodup := by
    rw [htypes]
    decide
  have hfind := Conditions.find?_of_mem hdistinct hmem
  have hset := reads.find?_status name now fetched
    (List.mem_append_right (reads.conditions name) (List.mem_singleton_self reads.overall))
  rw [htype] at hfind
  obtain rfl := Option.some.inj (hset.symm.trans hfind)
  rw [Conditions.verdict_merged, overall_status]

def Cluster.HoldsWhole (cluster : Cluster) : Prop :=
  ∀ key server, cluster.servers.find? key = some server → ∀ status ∈ server.status, status.IsWhole

namespace Cluster.HoldsWhole

variable {cluster : Cluster}

theorem withChildren (hholds : cluster.HoldsWhole) (kind : ChildKind) (store : Store kind.Object) :
    (cluster.withStore (.child kind) store).HoldsWhole := by
  cases kind with
  | deployment => exact hholds
  | service => exact hholds
  | route => exact hholds

theorem insert (hholds : cluster.HoldsWhole) (key : Key) {server : Server}
    (hserver : ∀ status ∈ server.status, status.IsWhole) :
    (cluster.insert .server key server).HoldsWhole := by
  intro other found hfound
  by_cases hkey : other = key
  · subst hkey
    have hinserted : (cluster.servers.insert other server).find? other = some server :=
      cluster.servers.find?_insert_self other server
    obtain rfl : server = found := Option.some.inj (hinserted.symm.trans hfound)
    exact hserver
  · refine hholds other found ?_
    rw [← hfound]
    exact (cluster.servers.find?_insert_of_ne server hkey).symm

theorem erase (hholds : cluster.HoldsWhole) (key : Key) :
    (cluster.erase .server key).HoldsWhole := by
  intro other found hfound
  by_cases hkey : other = key
  · subst hkey
    have herased : (cluster.servers.erase other).find? other = none :=
      cluster.servers.find?_erase_self other
    cases herased.symm.trans hfound
  · refine hholds other found ?_
    rw [← hfound]
    exact (cluster.servers.find?_erase_of_ne hkey).symm

end Cluster.HoldsWhole

namespace Pass

/-- What a pass relies on: the status of a record that it fetches is whole. -/
def FetchesWhole : (call : Call) → call.Answer → Prop
  | .fetch _, .ok (some server) => ∀ status ∈ server.status, status.IsWhole
  | _, _ => True

/-- What it guarantees in turn: it writes whole statuses only. -/
def WritesWhole : Call → Prop
  | .writeStatus _ status => status.IsWhole
  | _ => True

theorem reconcile_writesWhole (now : String) (key : Key) :
    (reconcile now key).Keeps FetchesWhole WritesWhole fun _ => True := by
  apply keeps_reconcile
  · trivial
  · intro server hserver
    apply keeps_tend
    · intro kind object
      trivial
    · intro kind
      trivial
    · intro reads
      exact reads.isWhole_status key.name now hserver

theorem fetchesWhole_error (call : Call) (error : ClusterError) :
    FetchesWhole call (.error error) := by
  cases call <;> trivial

/-- A cluster that holds whole statuses gives what is relied on, and stays so under a call that
keeps what is guaranteed. -/
theorem fetchesWhole_answer {cluster : Cluster} (hholds : cluster.HoldsWhole) (call : Call)
    (hcall : WritesWhole call) :
    FetchesWhole call (cluster.answer call).1 ∧ (cluster.answer call).2.HoldsWhole := by
  cases call with
  | fetch key =>
      refine ⟨?_, hholds⟩
      change FetchesWhole (.fetch key) (.ok (cluster.servers.find? key))
      cases hfind : cluster.servers.find? key with
      | none => trivial
      | some server => exact hholds key server hfind
  | create kind object =>
      simp only [Cluster.answer]
      split
      · exact ⟨trivial, hholds⟩
      · exact ⟨trivial, hholds.withChildren kind _⟩
  | get kind key => exact ⟨trivial, hholds⟩
  | writeStatus key status =>
      simp only [Cluster.answer]
      split
      · rename_i server hfound
        refine ⟨trivial, hholds.insert key ?_⟩
        intro written hwritten
        cases hwritten
        exact hcall
      · exact ⟨trivial, hholds⟩

end Pass

/-- The cluster holds whole statuses, passes fetch no others, and in turn write no others. -/
def Contract.whole : Contract where
  holds := Cluster.HoldsWhole
  rely := Pass.FetchesWhole
  guarantee := Pass.WritesWhole
  error := Pass.fetchesWhole_error
  answer _ call hholds hcall := Pass.fetchesWhole_answer hholds call hcall
  reconcile := Pass.reconcile_writesWhole

theorem Contract.suits_whole (step : Step) : Contract.whole.Suits step := by
  intro hcall state hholds
  cases step with
  | start now key => exact hholds
  | call index fate => cases hcall
  | storeChild kind key object => exact hholds.withChildren kind _
  | removeChild kind key => exact hholds.withChildren kind _
  | createRecord key metadata spec =>
      refine hholds.insert key ?_
      intro status hstatus
      cases hstatus
  | editRecord key metadata spec =>
      simp only [Interleaved.step]
      split
      · rename_i server hfound
        exact hholds.insert key (hholds key server hfound)
      · exact hholds
  | removeRecord key => exact hholds.erase key

namespace Interleaved

/-- The cluster holds whole statuses, and the passes under way will write no others. -/
structure IsSound (state : Interleaved) : Prop where
  holds : state.cluster.HoldsWhole
  passes : ∀ pass ∈ state.passes,
    pass.Keeps Pass.FetchesWhole Pass.WritesWhole fun _ => True

theorem IsSound.step {state : Interleaved} (step : Step) (hsound : state.IsSound) :
    (state.step step).IsSound := by
  have hkept : Contract.whole.IsKept state := ⟨hsound.holds, hsound.passes⟩
  have hlater := hkept.step (Contract.suits_whole step)
  exact ⟨hlater.holds, hlater.passes⟩

/-- Persisted statuses are always whole and agree with themselves. From records without a status, in
whatever way passes start and take turns, calls fail or are lost, passes are cancelled, and children
and records come and go: a stored record has no status, or a whole one. -/
theorem isWhole_of_run (cluster : Cluster) (steps : List Step)
    (hinitial : ∀ key server, cluster.servers.find? key = some server → server.status = none) :
    ∀ key server, ((⟨cluster, []⟩ : Interleaved).run steps).cluster.servers.find? key = some server →
      server.status = none ∨ ∃ status, server.status = some status ∧ status.IsWhole := by
  intro key server hfound
  have hstart : (⟨cluster, []⟩ : Interleaved).IsSound := by
    refine ⟨?_, List.forall_mem_nil _⟩
    intro key server hfound status hstatus
    rw [hinitial key server hfound] at hstatus
    cases hstatus
  have hsound := run_induction (fun _ step hstate => IsSound.step step hstate) steps hstart
  cases hstatus : server.status with
  | none => exact .inl rfl
  | some status => exact .inr ⟨status, rfl, hsound.holds key server hfound status hstatus⟩

/-- Two passes over one record, each of which fetches it before the other writes. -/
theorem isWhole_of_run_overlapping :
    let key : Key := ⟨"default", "web"⟩
    let server : Server :=
      ⟨{ Metadata.empty with name := some "web", uid := some "17" }, default, none⟩
    let cluster : Cluster := ⟨⟨[(key, server)]⟩, .empty, .empty, .empty⟩
    let turns (index calls : Nat) : List Step := List.replicate calls (.call index .answered)
    let steps := [.start "t1" key, .start "t2" key] ++ turns 0 1 ++ turns 1 4 ++
      [.removeChild .service key] ++ turns 0 7 ++ turns 1 4
    ∃ server status,
      ((⟨cluster, []⟩ : Interleaved).run steps).cluster.servers.find? key = some server ∧
        server.status = some status ∧ status.IsWhole := by
  intro key server cluster turns steps
  have hinitial : ∀ other found, cluster.servers.find? other = some found →
      found.status = none := by
    intro other found hfound
    by_cases hkey : key = other
    · have hfirst : cluster.servers.find? other = some server := if_pos hkey
      cases hfirst.symm.trans hfound
      rfl
    · have hnone : cluster.servers.find? other = none := if_neg hkey
      cases hnone.symm.trans hfound
  have hwritten : ((((⟨cluster, []⟩ : Interleaved).run steps).cluster.servers.find? key).bind
      Server.status).isSome = true := by decide +kernel
  cases hfound : ((⟨cluster, []⟩ : Interleaved).run steps).cluster.servers.find? key with
  | none =>
      rw [hfound] at hwritten
      cases hwritten
  | some found =>
      rcases isWhole_of_run cluster steps hinitial key found hfound with
        hnone | ⟨status, hstatus, hwhole⟩
      · rw [hfound, Option.bind_some, hnone] at hwritten
        cases hwritten
      · exact ⟨found, status, rfl, hstatus, hwhole⟩

end Interleaved

end ServerOperator
