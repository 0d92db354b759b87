import ServerOperator.Proofs.Course
import ServerOperator.Proofs.Requeue

/-!
# When a status is written

A pass merges what it computes into the conditions that it fetched, and writes the outcome unless that
is the status that it fetched. This comes to the same as looking for a type whose first entry says
something else than what was computed: two updates never take each other back, and a time alone makes
no difference. Times are only carried along. Nothing is decided by them, and an entry gets another one
only if its status changes.
-/

namespace ServerOperator

/-! ### All but the times -/

def Condition.untimed (condition : Condition) : Condition :=
  { condition with lastTransitionTime := none }

def ServerStatus.untimed (status : ServerStatus) : ServerStatus :=
  ⟨status.conditions.map Condition.untimed⟩

namespace Conditions

theorem find?_map_untimed (conditions : List Condition) (type : ConditionType) :
    find? (conditions.map Condition.untimed) type =
      (find? conditions type).map Condition.untimed :=
  List.find?_map

theorem untimed_update {held other : Condition} (htype : held.type = other.type) (new : Condition)
    (now later : String) :
    (update held new now).untimed = (update other new later).untimed := by
  change Condition.mk held.type new.status new.reason new.message none =
    Condition.mk other.type new.status new.reason new.message none
  rw [htype]

theorem untimed_set (new : Condition) (now later : String) {held other : List Condition}
    (hsame : held.map Condition.untimed = other.map Condition.untimed) :
    (set new now held).1.map Condition.untimed = (set new later other).1.map Condition.untimed := by
  induction held generalizing other with
  | nil =>
      obtain rfl : other = [] := by simpa using hsame.symm
      rfl
  | cons first rest ih =>
      cases other with
      | nil => cases hsame
      | cons second others =>
          obtain ⟨hfirst, hrest⟩ := List.cons_eq_cons.mp hsame
          have htype : first.untimed.type = second.untimed.type := congrArg Condition.type hfirst
          change first.type = second.type at htype
          unfold set
          rw [htype]
          split
          · exact List.cons_eq_cons.mpr ⟨untimed_update htype new now later, hrest⟩
          · exact List.cons_eq_cons.mpr ⟨hfirst, ih hrest⟩

theorem untimed_setAll (observed : List Condition) (now later : String)
    {held other : List Condition}
    (hsame : held.map Condition.untimed = other.map Condition.untimed) :
    (setAll observed now held).map Condition.untimed =
      (setAll observed later other).map Condition.untimed := by
  induction observed generalizing held other with
  | nil => exact hsame
  | cons new rest ih => exact ih (untimed_set new now later hsame)

/-! ### Entry by entry -/

theorem getElem?_set (new : Condition) (now : String) {conditions : List Condition} {place : Nat}
    {entry : Condition} (hentry : conditions[place]? = some entry) :
    ∃ after, (set new now conditions).1[place]? = some after ∧
      (after = entry ∨ entry.type = new.type ∧ after = update entry new now) := by
  induction conditions generalizing place with
  | nil => cases hentry
  | cons held rest ih =>
      unfold set
      split
      · rename_i htype
        cases place with
        | zero =>
            obtain rfl : held = entry := Option.some.inj hentry
            exact ⟨update held new now, rfl, .inr ⟨htype, rfl⟩⟩
        | succ place => exact ⟨entry, hentry, .inl rfl⟩
      · cases place with
        | zero => exact ⟨entry, hentry, .inl rfl⟩
        | succ place => exact ih hentry

/-- Of conditions with different types at most one touches an entry. -/
theorem getElem?_setAll {observed : List Condition} (now : String)
    (hdistinct : (observed.map Condition.type).Nodup) {conditions : List Condition} {place : Nat}
    {entry : Condition} (hentry : conditions[place]? = some entry) :
    ∃ after, (setAll observed now conditions)[place]? = some after ∧
      (after = entry ∨ ∃ new ∈ observed, entry.type = new.type ∧ after = update entry new now) := by
  induction observed generalizing conditions entry with
  | nil => exact ⟨entry, hentry, .inl rfl⟩
  | cons first rest ih =>
      rw [List.map_cons, List.nodup_cons] at hdistinct
      obtain ⟨hfirst, hrest⟩ := hdistinct
      obtain ⟨between, hbetween, hset⟩ := getElem?_set first now hentry
      obtain ⟨after, hafter, hlater⟩ := ih hrest hbetween
      refine ⟨after, hafter, ?_⟩
      rcases hset with rfl | ⟨htype, rfl⟩
      · rcases hlater with rfl | ⟨new, hmem, hupdated⟩
        · exact .inl rfl
        · exact .inr ⟨new, List.mem_cons_of_mem first hmem, hupdated⟩
      · rcases hlater with rfl | ⟨new, hmem, hagain, _⟩
        · exact .inr ⟨first, List.mem_cons_self, htype, rfl⟩
        · rw [type_update, htype] at hagain
          exact absurd (hagain ▸ List.mem_map_of_mem hmem) hfirst

theorem lastTransitionTime_update {held new : Condition} (now : String)
    (hstatus : (update held new now).status = held.status) :
    (update held new now).lastTransitionTime = held.lastTransitionTime :=
  if_pos hstatus.symm

end Conditions

namespace Reads

open Conditions

variable (reads : Reads) (name now : String)

/-- The conditions that a pass computes: that of each child, and the overall one on the list that
these were merged into. -/
def computed (fetched : Option ServerStatus) : List Condition :=
  let observed := reads.conditions name
  observed ++ [(report observed now (fetched.getD .empty).conditions).overall]

theorem computed_eq_reported (fetched : Option ServerStatus) :
    reads.computed name now fetched = reads.reported name := by
  unfold computed reported
  simp only [overall_report]

/-- The status that is made is the fetched one if the first entry of every type says already what was
computed. -/
theorem status_eq_iff (fetched : Option ServerStatus) :
    some (reads.status name now fetched) = fetched ↔
      ∀ new ∈ reads.reported name,
        (find? (fetched.getD .empty).conditions new.type).map Condition.verdict =
          some new.verdict := by
  constructor
  · intro hsame new hmem
    have hfind := reads.find?_status name now fetched hmem
    have hheld : fetched.getD .empty = reads.status name now fetched :=
      (congrArg (Option.getD · ServerStatus.empty) hsame).symm
    rw [← hheld] at hfind
    rw [hfind, Option.map_some, verdict_merged]
  · intro hheld
    cases fetched with
    | none =>
        obtain ⟨new, hmem, _⟩ := reads.exists_mem_reported name .available
        cases hheld new hmem
    | some held =>
        refine congrArg (some ∘ ServerStatus.mk) (setAll_eq_self now ?_)
        intro new hmem
        exact Option.map_eq_some_iff.mp (hheld new hmem)

theorem untimed_status (later : String) {fetched other : Option ServerStatus}
    (hsame : fetched.map ServerStatus.untimed = other.map ServerStatus.untimed) :
    (reads.status name now fetched).untimed = (reads.status name later other).untimed := by
  refine congrArg ServerStatus.mk (untimed_setAll _ now later ?_)
  have hheld := congrArg (fun held => (held.getD .empty).conditions) hsame
  cases fetched <;> cases other <;> exact hheld

/-- Times play no part in whether the status changes. -/
theorem status_eq_iff_of_untimed (later : String) {fetched other : Option ServerStatus}
    (hsame : fetched.map ServerStatus.untimed = other.map ServerStatus.untimed) :
    some (reads.status name now fetched) = fetched ↔
      some (reads.status name later other) = other := by
  have hverdict (held : Option ServerStatus) (type : ConditionType) :
      (find? (held.getD .empty).conditions type).map Condition.verdict =
        (find? ((held.map ServerStatus.untimed).getD .empty).conditions type).map
          Condition.verdict := by
    cases held with
    | none => rfl
    | some held =>
        change _ = (find? (held.conditions.map Condition.untimed) type).map Condition.verdict
        rw [find?_map_untimed, Option.map_map]
        rfl
  rw [status_eq_iff, status_eq_iff]
  refine forall₂_congr fun new _ => ?_
  rw [hverdict fetched, hverdict other, hsame]

end Reads

namespace Pass

/-- A pass that is answered all that it asks and gets past its creations: which record it found, and
how its reads were answered. -/
structure Tended (now : String) (key : Key) (server : Server) (reads : Reads)
    (log : List Exchange) (outcome : Except PassError Action) : Prop where
  trace : (reconcile now key).Trace log outcome
  complete : (reconcile now key).Complete log
  fetched : Exchange.mk (.fetch key) (some (.ok (some server))) ∈ log
  read : ∀ kind, Exchange.mk (.get kind key) (some (reads kind)) ∈ log

namespace Tended

variable {now : String} {key : Key} {server : Server} {reads : Reads} {log : List Exchange}
  {outcome : Except PassError Action}

/-- The writes at the end of such a pass: there is one, of what its reads make of the status that it
fetched, unless that is the same status. -/
structure Writes (key : Key) (fetched : Option ServerStatus) (status : ServerStatus)
    (written : List Exchange) : Prop where
  kept : some status = fetched → written = []
  changed : some status ≠ fetched → ∃ answer, written = [⟨.writeStatus key status, some answer⟩]

theorem eq_writes (htended : Tended now key server reads log outcome) :
    ∃ blueprint created written,
      log = ⟨.fetch key, some (.ok (some server))⟩ ::
        (creations blueprint created ++ (readings key reads ++ written)) ∧
      Writes key server.status (reads.status key.name now server.status) written ∧
      ∀ action, outcome = .ok action → action = actionOf reads.overall := by
  obtain ⟨htrace, hcomplete, hfetched, hread⟩ := htended
  obtain ⟨later, rfl, _⟩ := trace_reconcile_found htrace hfetched
  have hmade {made : Reads} {before after : List Exchange}
      (hlater : later = before ++ (readings key made ++ after))
      (hbefore : ∀ (kind : ChildKind) answer, Exchange.mk (.get kind key) (some answer) ∉ before)
      (hafter : ∀ (kind : ChildKind) answer, Exchange.mk (.get kind key) (some answer) ∉ after) :
      made = reads := by
    funext kind
    have hmem := hread kind
    rw [hlater, List.mem_cons, List.mem_append, List.mem_append, mem_readings_iff] at hmem
    rcases hmem with hfetch | hearly | hmade | hlate
    · cases hfetch
    · exact absurd hearly (hbefore kind _)
    · exact hmade.symm
    · exact absurd hlate (hafter kind _)
  cases course_of_trace htrace hcomplete with
  | unowned _ hnameless => cases List.mem_singleton.mp (hread .deployment)
  | refused _ owner howner earlier others kind horder created haccepted source hrefused hother =>
      rcases List.mem_cons.mp (hread .deployment) with hfetch | hcreated
      · cases hfetch
      · obtain ⟨_, _, hexchange⟩ := List.mem_map.mp hcreated
        cases hexchange
  | unchanged _ owner howner created haccepted made hsame =>
      obtain rfl : made = reads :=
        hmade (congrArg _ (List.append_nil _).symm) (fun _ _ => get_not_mem_creations)
          fun _ _ => List.not_mem_nil
      refine ⟨⟨key, some owner, server.spec⟩, created, [], ?_,
        ⟨fun _ => rfl, fun hchanged => absurd hsame hchanged⟩, ?_⟩
      · rw [List.append_nil]
      · rintro _ ⟨⟩
        rfl
  | changed _ owner howner created haccepted made status hstatus hchanged answer =>
      obtain rfl : made = reads :=
        hmade rfl (fun _ _ => get_not_mem_creations) fun kind _ hmem => by
          cases List.mem_singleton.mp hmem
      subst hstatus
      refine ⟨_, created, _, rfl, ⟨fun hsame => absurd hsame hchanged, fun _ => ⟨answer, rfl⟩⟩, ?_⟩
      intro action haction
      cases answer with
      | ok done =>
          cases haction
          rfl
      | error source => cases haction

/-- What such a pass writes is what its reads make of the status fetched, if that changes it. -/
theorem mem_write_iff (htended : Tended now key server reads log outcome) {place : Key}
    {status : ServerStatus} :
    (∃ answer, Exchange.mk (.writeStatus place status) answer ∈ log) ↔
      place = key ∧ status = reads.status key.name now server.status ∧
        some status ≠ server.status := by
  obtain ⟨blueprint, created, written, rfl, hwrites, _⟩ := htended.eq_writes
  have hmem (answer : Option (Call.writeStatus place status).Answer) :
      Exchange.mk (.writeStatus place status) answer ∈
          Exchange.mk (.fetch key) (some (.ok (some server))) ::
            (creations blueprint created ++ (readings key reads ++ written)) ↔
        Exchange.mk (.writeStatus place status) answer ∈ written := by
    rw [List.mem_cons, List.mem_append, List.mem_append]
    refine ⟨?_, fun hwritten => .inr (.inr (.inr hwritten))⟩
    rintro (hfetch | hcreated | hread | hwritten)
    · cases hfetch
    · obtain ⟨_, _, hexchange⟩ := List.mem_map.mp hcreated
      cases hexchange
    · obtain ⟨_, _, hexchange⟩ := List.mem_map.mp hread
      cases hexchange
    · exact hwritten
  simp only [hmem]
  by_cases hsame : some (reads.status key.name now server.status) = server.status
  · rw [hwrites.kept hsame]
    constructor
    · rintro ⟨_, ⟨⟩⟩
    · rintro ⟨rfl, rfl, hchanged⟩
      exact absurd hsame hchanged
  · obtain ⟨told, rfl⟩ := hwrites.changed hsame
    constructor
    · rintro ⟨answer, hwritten⟩
      cases List.mem_singleton.mp hwritten
      exact ⟨rfl, rfl, hsame⟩
    · rintro ⟨rfl, rfl, _⟩
      exact ⟨some told, List.mem_singleton_self _⟩

end Tended

/-- A status is written exactly when something observable changed. A pass that is not cancelled and
gets past its creations writes a status if and only if the first entry of some type is missing in the
one fetched, or says something else there than was computed. Whatever its clock reads and whatever
times the entries had, it decides the same, it writes the same but for the times, and it ends with the
same action. An entry whose status stays keeps its time as it was fetched, or goes on without one. -/
theorem status_written_iff {now : String} {key : Key} {server : Server} {reads : Reads}
    {log : List Exchange} {outcome : Except PassError Action}
    (htended : Tended now key server reads log outcome) :
    let writes (log : List Exchange) (status : ServerStatus) : Prop :=
      ∃ place answer, Exchange.mk (.writeStatus place status) answer ∈ log
    let held := (server.status.getD .empty).conditions
    let computed := reads.computed key.name now server.status
    computed.map Condition.type = ConditionType.all ∧
      ((∃ status, writes log status) ↔ ∃ new ∈ computed,
        (Conditions.find? held new.type).map Condition.verdict ≠ some new.verdict) ∧
      (∀ (later : String) (other : Server) (again : List Exchange)
          (ended : Except PassError Action), Tended later key other reads again ended →
        server.status.map ServerStatus.untimed = other.status.map ServerStatus.untimed →
          ((∃ status, writes log status) ↔ ∃ status, writes again status) ∧
          (∀ first second, writes log first → writes again second →
            first.untimed = second.untimed) ∧
          ∀ first second, outcome = .ok first → ended = .ok second → first = second) ∧
      ∀ status, writes log status → ∀ (position : Nat) (entry : Condition),
        held[position]? = some entry → ∃ after, status.conditions[position]? = some after ∧
          after.type = entry.type ∧
          (after.status = entry.status →
            after.lastTransitionTime = entry.lastTransitionTime) := by
  intro writes held computed
  have hwrites {now : String} {server : Server} {log : List Exchange}
      {outcome : Except PassError Action} (htended : Tended now key server reads log outcome)
      (status : ServerStatus) :
      writes log status ↔ status = reads.status key.name now server.status ∧
        some status ≠ server.status := by
    refine ⟨?_, fun hwritten => ⟨key, htended.mem_write_iff.mpr ⟨rfl, hwritten⟩⟩⟩
    rintro ⟨place, hwritten⟩
    exact (htended.mem_write_iff.mp hwritten).2
  have hdecides {now : String} {server : Server} {log : List Exchange}
      {outcome : Except PassError Action} (htended : Tended now key server reads log outcome) :
      (∃ status, writes log status) ↔
        some (reads.status key.name now server.status) ≠ server.status := by
    simp only [hwrites htended]
    exact exists_eq_left
  refine ⟨?_, ?_, ?_, ?_⟩
  · change (reads.computed key.name now server.status).map Condition.type = _
    rw [reads.computed_eq_reported, reads.map_type_reported]
  · rw [hdecides htended, ne_eq, reads.status_eq_iff]
    change _ ↔ ∃ new ∈ reads.computed key.name now server.status, _
    rw [reads.computed_eq_reported]
    push Not
    rfl
  · intro later other again ended hagain hsame
    refine ⟨?_, ?_, ?_⟩
    · rw [hdecides htended, hdecides hagain]
      exact not_congr (reads.status_eq_iff_of_untimed key.name now later hsame)
    · intro first second hfirst hsecond
      rw [((hwrites htended first).mp hfirst).1, ((hwrites hagain second).mp hsecond).1]
      exact reads.untimed_status key.name now later hsame
    · intro first second hfirst hsecond
      obtain ⟨_, _, _, _, _, haction⟩ := htended.eq_writes
      obtain ⟨_, _, _, _, _, hother⟩ := hagain.eq_writes
      rw [haction first hfirst, hother second hsecond]
  · intro status hwritten position entry hentry
    obtain ⟨rfl, _⟩ := (hwrites htended status).mp hwritten
    have hdistinct : ((reads.reported key.name).map Condition.type).Nodup := by
      rw [reads.map_type_reported]
      decide
    obtain ⟨after, hafter, hupdated⟩ := Conditions.getElem?_setAll now hdistinct hentry
    refine ⟨after, hafter, ?_⟩
    rcases hupdated with rfl | ⟨new, _, _, rfl⟩
    · exact ⟨rfl, fun _ => rfl⟩
    · exact ⟨rfl, Conditions.lastTransitionTime_update now⟩

/-- The service is there again. Two passes over the record, with and without a time on the entry of
the service, write the same but for the times; the deployment's entry goes on without one. -/
theorem status_written_iff_serviceBack :
    let key : Key := ⟨"default", "web"⟩
    let server (time : Option String) : Server :=
      ⟨{ Metadata.empty with name := some "web", uid := some "17" }, default, some ⟨[
        ⟨.serviceAvailable, .false, "ServiceNotFound", "Service web not found", time⟩,
        ⟨.deploymentAvailable, .false, "DeploymentNotReady",
          "Deployment web is not yet available", none⟩]⟩⟩
    let log (now : String) (time : Option String) : List Exchange :=
      (reconcile now key).exchanges Cluster.backend ⟨⟨[(key, server time)]⟩, .empty, .empty, .empty⟩
    let writes (log : List Exchange) (status : ServerStatus) : Prop :=
      ∃ place answer, Exchange.mk (.writeStatus place status) answer ∈ log
    ∃ first second, writes (log "t1" none) first ∧ writes (log "t2" (some "t0")) second ∧
      first.untimed = second.untimed ∧
      first.conditions[1]?.map Condition.lastTransitionTime = some none := by
  intro key server log writes
  let blueprint (time : Option String) : Blueprint :=
    ⟨key, (server time).controllerReference?, (server time).spec⟩
  let reads : Reads := ChildKind.family (.ok (some (blueprint none).deployment))
    (.ok (some (blueprint none).service)) (.ok (some (blueprint none).route))
  have htended (now : String) (time : Option String) :
      Tended now key (server time) reads (log now time) (.ok (.requeue 15000)) := by
    refine ⟨trace_exchanges Cluster.backend _ _,
      complete_exchanges Cluster.answersAll_backend _ _, List.mem_cons_self, fun kind => ?_⟩
    -- The reads follow the fetch and the three creations.
    cases kind with
    | deployment => exact .tail _ (.tail _ (.tail _ (.tail _ (.head _))))
    | service => exact .tail _ (.tail _ (.tail _ (.tail _ (.tail _ (.head _)))))
    | route => exact .tail _ (.tail _ (.tail _ (.tail _ (.tail _ (.tail _ (.head _))))))
  obtain ⟨_, hwritten, hrepeated, hkept⟩ := status_written_iff (htended "t1" none)
  obtain ⟨hdecides, hwrites, _⟩ :=
    hrepeated "t2" (server (some "t0")) (log "t2" (some "t0")) _ (htended "t2" (some "t0")) rfl
  -- There is no overall entry yet.
  obtain ⟨first, hfirst⟩ : ∃ status, writes (log "t1" none) status :=
    hwritten.mpr ⟨_, List.mem_append_right _ (List.mem_singleton_self _), nofun⟩
  obtain ⟨second, hsecond⟩ := hdecides.mp ⟨first, hfirst⟩
  refine ⟨first, second, hfirst, hsecond, hwrites first second hfirst hsecond, ?_⟩
  obtain ⟨after, hafter, _, hunmoved⟩ := hkept first hfirst 1 _ rfl
  have hstatus : after.status = .false := by
    obtain ⟨place, hplace⟩ := hfirst
    obtain ⟨_, rfl, _⟩ := (htended "t1" none).mem_write_iff.mp hplace
    cases hafter
    rfl
  rw [hafter]
  exact congrArg some (hunmoved hstatus)

end Pass

end ServerOperator
