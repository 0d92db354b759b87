import ServerOperator.Proofs.Agenda
import ServerOperator.Proofs.Effects
import ServerOperator.Proofs.Persistence

/-!
# The course of a pass

A pass that is answered all that it asks stops early at the first answer that makes it stop, and
otherwise goes through all of its calls. One that fails, cancelled or not, has not written: so the
record is as it was, while the children that it created before stay.
-/

namespace ServerOperator

namespace Pass

/-- The creations of some of the kinds, with what was answered. -/
def creating (blueprint : Blueprint) (created : (kind : ChildKind) → Except ClusterError kind.Object)
    (kinds : List ChildKind) : List Exchange :=
  kinds.map fun kind => ⟨.create kind (blueprint.child kind), some (created kind)⟩

/-- How a pass goes that nothing cuts short: what it exchanges, and how it ends. -/
inductive Course (now : String) (key : Key) : List Exchange → Except PassError Action → Prop where
  | unfetched (source : ClusterError) :
      Course now key [⟨.fetch key, some (.error source)⟩] (.error (.fetch key source))
  | absent : Course now key [⟨.fetch key, some (.ok none)⟩] (.ok .awaitChange)
  | unowned (server : Server)
      (hnameless : server.metadata.name = none ∨ server.metadata.uid = none) :
      Course now key [⟨.fetch key, some (.ok (some server))⟩] (.error (.ownerReference key))
  | refused (server : Server) (owner : OwnerReference)
      (howner : server.controllerReference? = some owner)
      (earlier later : List ChildKind) (kind : ChildKind)
      (horder : ChildKind.all = earlier ++ kind :: later)
      (created : (kind : ChildKind) → Except ClusterError kind.Object)
      (haccepted : ∀ kind ∈ earlier, accepted (created kind))
      (source : ClusterError) (hrefused : created kind = .error source)
      (hother : source.isAlreadyExists = false) :
      Course now key
        (⟨.fetch key, some (.ok (some server))⟩ ::
          creating ⟨key, some owner, server.spec⟩ created (earlier ++ [kind]))
        (.error (.create kind key source))
  | unchanged (server : Server) (owner : OwnerReference)
      (howner : server.controllerReference? = some owner)
      (created : (kind : ChildKind) → Except ClusterError kind.Object)
      (haccepted : ∀ kind, accepted (created kind)) (reads : Reads)
      (hsame : some (reads.status key.name now server.status) = server.status) :
      Course now key
        (⟨.fetch key, some (.ok (some server))⟩ ::
          (creations ⟨key, some owner, server.spec⟩ created ++ readings key reads))
        (.ok (actionOf reads.overall))
  | changed (server : Server) (owner : OwnerReference)
      (howner : server.controllerReference? = some owner)
      (created : (kind : ChildKind) → Except ClusterError kind.Object)
      (haccepted : ∀ kind, accepted (created kind)) (reads : Reads) (status : ServerStatus)
      (hstatus : status = reads.status key.name now server.status)
      (hchanged : some status ≠ server.status)
      (written : Except ClusterError Unit) :
      Course now key
        (⟨.fetch key, some (.ok (some server))⟩ ::
          (creations ⟨key, some owner, server.spec⟩ created ++ (readings key reads ++
            [⟨.writeStatus key status, some written⟩])))
        (match written with
          | .ok () => .ok (actionOf reads.overall)
          | .error source => .error (.status key source))

/-! ### The parts of a pass that fail -/

section Parts

variable {log : List Exchange} {error : PassError} {key : Key}

theorem Trace.ask_failed {call : Call} {next : call.Answer → Pass α}
    (htrace : (Pass.ask call next).Trace log (.error error)) (herror : error ≠ .cancelled) :
    ∃ answer later, log = ⟨call, some answer⟩ :: later ∧
      (next answer).Trace later (.error error) := by
  cases htrace with
  | stopped => exact absurd rfl herror
  | abandoned => exact absurd rfl herror
  | answered _ _ answer later => exact ⟨answer, _, rfl, later⟩

theorem Trace.failed_with {failure : PassError}
    (htrace : (Pass.failed failure : Pass α).Trace log (.error error)) :
    log = [] ∧ error = failure := by
  cases htrace
  exact ⟨rfl, rfl⟩

theorem trace_fetch_failed (htrace : (fetch key).Trace log (.error error))
    (herror : error ≠ .cancelled) :
    ∃ source, log = [⟨.fetch key, some (.error source)⟩] ∧ error = .fetch key source := by
  obtain ⟨answer, later, rfl, hlater⟩ := htrace.ask_failed herror
  cases answer with
  | ok found => cases hlater
  | error source =>
      obtain ⟨rfl, hsource⟩ := hlater.failed_with
      exact ⟨source, rfl, hsource⟩

theorem trace_ensure_failed {blueprint : Blueprint} {kind : ChildKind}
    (htrace : (ensure blueprint kind).Trace log (.error error)) (herror : error ≠ .cancelled) :
    ∃ source, log = [⟨.create kind (blueprint.child kind), some (.error source)⟩] ∧
      source.isAlreadyExists = false ∧ error = .create kind blueprint.key source := by
  obtain ⟨answer, later, rfl, hlater⟩ := htrace.ask_failed herror
  cases answer with
  | ok object => cases hlater
  | error source =>
      change (if source.isAlreadyExists = true then finished EnsureOutcome.alreadyExists
        else failed (.create kind blueprint.key source)).Trace later (.error error) at hlater
      by_cases hexists : source.isAlreadyExists = true
      · rw [if_pos hexists] at hlater
        cases hlater
      · rw [if_neg hexists] at hlater
        obtain ⟨rfl, hsource⟩ := hlater.failed_with
        exact ⟨source, rfl, Bool.eq_false_iff.mpr hexists, hsource⟩

/-- The kinds before the one that was refused were created or there, and no later one was tried. -/
theorem trace_ensureAll_failed {blueprint : Blueprint}
    (htrace : (ensureAll blueprint).Trace log (.error error)) (herror : error ≠ .cancelled) :
    ∃ earlier later kind, ChildKind.all = earlier ++ kind :: later ∧
      ∃ created source, log = creating blueprint created (earlier ++ [kind]) ∧
        (∀ kind ∈ earlier, accepted (created kind)) ∧ created kind = .error source ∧
        source.isAlreadyExists = false ∧ error = .create kind blueprint.key source := by
  have unanswered : (kind : ChildKind) → Except ClusterError kind.Object :=
    fun _ => .error (.service "")
  rcases htrace.bind_cases with ⟨_, houtcome, hfirst⟩ | ⟨_, _, _, rfl, hfirst, hlater⟩
  · cases houtcome
    obtain ⟨source, rfl, hrefused, rfl⟩ := trace_ensure_failed hfirst herror
    refine ⟨[], [.service, .route], .deployment, rfl,
      ChildKind.family (.error source) (unanswered _) (unanswered _), source, rfl, ?_, rfl,
      hrefused, rfl⟩
    exact List.forall_mem_nil _
  obtain ⟨deployment, rfl, hdeployment⟩ := trace_ensure_ok hfirst
  rcases hlater.bind_cases with ⟨_, houtcome, hsecond⟩ | ⟨_, _, _, rfl, hsecond, hlast⟩
  · cases houtcome
    obtain ⟨source, rfl, hrefused, rfl⟩ := trace_ensure_failed hsecond herror
    refine ⟨[.deployment], [.route], .service, rfl,
      ChildKind.family deployment (.error source) (unanswered _), source, rfl, ?_, rfl, hrefused,
      rfl⟩
    exact List.forall_mem_singleton.mpr hdeployment
  obtain ⟨service, rfl, hservice⟩ := trace_ensure_ok hsecond
  rcases hlast.bind_cases with ⟨_, houtcome, hthird⟩ | ⟨_, _, _, rfl, _, hend⟩
  · cases houtcome
    obtain ⟨source, rfl, hrefused, rfl⟩ := trace_ensure_failed hthird herror
    refine ⟨[.deployment, .service], [], .route, rfl,
      ChildKind.family deployment service (.error source), source, rfl, ?_, rfl, hrefused, rfl⟩
    exact List.forall_mem_cons.mpr ⟨hdeployment, List.forall_mem_singleton.mpr hservice⟩
  · cases hend

theorem trace_evaluateAll_failed (htrace : (evaluateAll key).Trace log (.error error)) :
    error = .cancelled := by
  by_contra herror
  obtain ⟨_, _, rfl, hsecond⟩ := htrace.ask_failed herror
  obtain ⟨_, _, rfl, hthird⟩ := hsecond.ask_failed herror
  obtain ⟨_, _, rfl, hend⟩ := hthird.ask_failed herror
  cases hend

/-- A write that fails is the last call, be it that it was cancelled or answered by an error. -/
theorem trace_persist_failed {fetched : Option ServerStatus} {status : ServerStatus}
    (htrace : (persist key fetched status).Trace log (.error error)) :
    some status ≠ fetched ∧
      (error = .cancelled ∧ (log = [] ∨ log = [⟨.writeStatus key status, none⟩]) ∨
        ∃ source, error = .status key source ∧
          log = [⟨.writeStatus key status, some (.error source)⟩]) := by
  unfold persist at htrace
  split at htrace
  · cases htrace
  · rename_i hchanged
    refine ⟨hchanged, ?_⟩
    cases htrace with
    | stopped => exact .inl ⟨rfl, .inl rfl⟩
    | abandoned => exact .inl ⟨rfl, .inr rfl⟩
    | answered _ _ answer later =>
        cases answer with
        | ok done => cases later
        | error source =>
            obtain ⟨rfl, herror⟩ := later.failed_with
            exact .inr ⟨source, herror, rfl⟩

/-- The part in which a pass failed, and what was exchanged until then. -/
inductive FailedPart (now : String) (key : Key) (error : PassError) : List Exchange → Prop where
  | fetching {log : List Exchange} (htrace : (fetch key).Trace log (.error error)) :
      FailedPart now key error log
  | owning {server : Server} (howner : server.controllerReference? = none)
      (herror : error = .ownerReference key) :
      FailedPart now key error [⟨.fetch key, some (.ok (some server))⟩]
  | creating {server : Server} {owner : OwnerReference}
      (howner : server.controllerReference? = some owner) {log : List Exchange}
      (htrace : (ensureAll ⟨key, some owner, server.spec⟩).Trace log (.error error)) :
      FailedPart now key error (⟨.fetch key, some (.ok (some server))⟩ :: log)
  | reading {server : Server} {owner : OwnerReference}
      {created : (kind : ChildKind) → Except ClusterError kind.Object} {log : List Exchange}
      (htrace : (evaluateAll key).Trace log (.error error)) :
      FailedPart now key error (⟨.fetch key, some (.ok (some server))⟩ ::
        (creations ⟨key, some owner, server.spec⟩ created ++ log))
  | writing {server : Server} {owner : OwnerReference}
      (howner : server.controllerReference? = some owner)
      {created : (kind : ChildKind) → Except ClusterError kind.Object}
      (haccepted : ∀ kind, accepted (created kind)) {reads : Reads} {log : List Exchange}
      (htrace : (persist key server.status (reads.status key.name now server.status)).Trace log
        (.error error)) :
      FailedPart now key error (⟨.fetch key, some (.ok (some server))⟩ ::
        (creations ⟨key, some owner, server.spec⟩ created ++ (readings key reads ++ log)))

theorem failedPart_of_trace {now : String} (htrace : (reconcile now key).Trace log (.error error)) :
    FailedPart now key error log := by
  rcases htrace.bind_cases with ⟨_, houtcome, hfetch⟩ | ⟨found, _, _, rfl, hfetch, hrest⟩
  · cases houtcome
    exact .fetching hfetch
  rw [trace_fetch_ok hfetch]
  cases found with
  | none => cases hrest
  | some server =>
      change (tend now key server).Trace _ _ at hrest
      unfold tend at hrest
      cases howner : server.controllerReference? with
      | none =>
          simp only [howner] at hrest
          obtain ⟨rfl, herror⟩ := hrest.failed_with
          exact .owning howner herror
      | some owner =>
          simp only [howner] at hrest
          rcases hrest.bind_cases with ⟨_, houtcome, hensure⟩ | ⟨_, _, _, rfl, hensure, hobserve⟩
          · cases houtcome
            exact .creating howner hensure
          obtain ⟨created, rfl, haccepted⟩ := trace_ensureAll_ok hensure
          rcases hobserve.bind_cases with ⟨_, houtcome, hevaluate⟩ |
            ⟨_, _, _, rfl, hevaluate, hconclude⟩
          · cases houtcome
            exact .reading hevaluate
          obtain ⟨reads, rfl, rfl⟩ := trace_evaluateAll_ok hevaluate
          rw [conclude_conditions] at hconclude
          rcases hconclude.bind_cases with ⟨_, houtcome, hpersist⟩ | ⟨_, _, _, _, _, hend⟩
          · cases houtcome
            exact .writing howner haccepted hpersist
          · cases hend

end Parts

/-- A pass that is answered all that it asks takes its course. -/
theorem course_of_trace {now : String} {key : Key} {log : List Exchange}
    {outcome : Except PassError Action} (htrace : (reconcile now key).Trace log outcome)
    (hcomplete : (reconcile now key).Complete log) : Course now key log outcome := by
  have houtcome := (complete_iff_ne_cancelled htrace).mp hcomplete
  cases outcome with
  | ok action =>
      rcases trace_reconcile_ok htrace with ⟨rfl, rfl⟩ | ⟨server, later, rfl, htend⟩
      · exact .absent
      obtain ⟨owner, created, reads, howner, haccepted, rfl, rfl⟩ := trace_tend_ok htend
      unfold writing
      split
      · rename_i hsame
        rw [List.append_nil]
        exact .unchanged server owner howner created haccepted reads hsame
      · rename_i hchanged
        exact .changed server owner howner created haccepted reads _ rfl hchanged (.ok ())
  | error error =>
      have herror : error ≠ .cancelled := fun hcancelled => houtcome (congrArg _ hcancelled)
      cases failedPart_of_trace htrace with
      | fetching hfetch =>
          obtain ⟨source, rfl, rfl⟩ := trace_fetch_failed hfetch herror
          exact .unfetched source
      | @owning server howner hreference =>
          rw [hreference]
          exact .unowned server (Server.controllerReference?_eq_none_iff.mp howner)
      | @creating server owner howner _ hensure =>
          obtain ⟨earlier, later, kind, horder, created, source, rfl, haccepted, hrefused, hother, rfl⟩ :=
            trace_ensureAll_failed hensure herror
          exact .refused server owner howner earlier later kind horder created haccepted source
            hrefused hother
      | reading hevaluate => exact absurd (trace_evaluateAll_failed hevaluate) herror
      | @writing server owner howner created haccepted reads _ hpersist =>
          obtain ⟨hchanged, ⟨hcancelled, _⟩ | ⟨source, rfl, rfl⟩⟩ := trace_persist_failed hpersist
          · exact absurd hcancelled herror
          · exact .changed server owner howner created haccepted reads _ rfl hchanged (.error source)

end Pass

/-! ### What a pass that fails leaves behind -/

/-- A status was written, and the pass was told so. -/
def Exchange.Wrote (exchange : Exchange) : Prop :=
  ∃ key status, exchange = ⟨.writeStatus key status, some (.ok ())⟩

theorem Exchange.not_wrote_of_call {exchange : Exchange}
    (hcall : ∀ key status, exchange.call ≠ .writeStatus key status) : ¬exchange.Wrote := by
  rintro ⟨key, status, rfl⟩
  exact hcall key status rfl

namespace Pass

theorem not_wrote_creations {blueprint : Blueprint}
    {created : (kind : ChildKind) → Except ClusterError kind.Object} :
    ∀ exchange ∈ creations blueprint created, ¬exchange.Wrote := by
  intro exchange hmem
  obtain ⟨kind, _, rfl⟩ := List.mem_map.mp hmem
  exact Exchange.not_wrote_of_call fun _ _ hcall => by cases hcall

theorem not_wrote_readings {key : Key} {reads : Reads} :
    ∀ exchange ∈ readings key reads, ¬exchange.Wrote := by
  intro exchange hmem
  obtain ⟨kind, _, rfl⟩ := List.mem_map.mp hmem
  exact Exchange.not_wrote_of_call fun _ _ hcall => by cases hcall

theorem Keeps.not_wrote {post : α → Prop} {pass : Pass α}
    (hpass : pass.Keeps (fun _ _ => True) (fun call => ∀ key status, call ≠ .writeStatus key status)
      post) {log : List Exchange} {outcome : Except PassError α} (htrace : pass.Trace log outcome) :
    ∀ exchange ∈ log, ¬exchange.Wrote :=
  fun exchange hmem => Exchange.not_wrote_of_call
    (hpass.guarantee_of_trace htrace (fun _ _ _ _ => trivial) exchange hmem)

/-- A write that succeeds is the last thing a pass does, and does not fail. -/
theorem not_wrote_of_failed {now : String} {key : Key} {log : List Exchange} {error : PassError}
    (htrace : (reconcile now key).Trace log (.error error)) :
    ∀ exchange ∈ log, ¬exchange.Wrote := by
  have hfetched (server : Server) : ¬(Exchange.mk (.fetch key) (some (.ok (some server)))).Wrote :=
    Exchange.not_wrote_of_call fun _ _ hcall => by cases hcall
  cases failedPart_of_trace htrace with
  | fetching hfetch =>
      have hkeeps : (fetch key).Keeps (fun _ _ => True)
          (fun call => ∀ key status, call ≠ .writeStatus key status) fun _ => True :=
        keeps_fetch (fun _ _ hcall => by cases hcall) fun _ _ => trivial
      exact hkeeps.not_wrote hfetch
  | owning => exact List.forall_mem_singleton.mpr (hfetched _)
  | creating howner hensure =>
      refine List.forall_mem_cons.mpr ⟨hfetched _, ?_⟩
      exact (keeps_ensureAll fun kind _ _ hcall => by cases hcall).not_wrote hensure
  | reading hevaluate =>
      refine List.forall_mem_cons.mpr ⟨hfetched _, List.forall_mem_append.mpr ⟨?_, ?_⟩⟩
      · exact not_wrote_creations
      · exact (keeps_evaluateAll fun kind _ _ hcall => by cases hcall).not_wrote hevaluate
  | writing howner haccepted hpersist =>
      refine List.forall_mem_cons.mpr ⟨hfetched _, List.forall_mem_append.mpr ⟨?_, ?_⟩⟩
      · exact not_wrote_creations
      refine List.forall_mem_append.mpr ⟨not_wrote_readings, ?_⟩
      obtain ⟨_, ⟨_, rfl | rfl⟩ | ⟨source, _, rfl⟩⟩ := trace_persist_failed hpersist
      · exact List.forall_mem_nil _
      · refine List.forall_mem_singleton.mpr ?_
        rintro ⟨written, status, hexchange⟩
        cases hexchange
      · refine List.forall_mem_singleton.mpr ?_
        rintro ⟨written, status, hexchange⟩
        cases hexchange

end Pass

/-- A creation succeeds only where there is no object yet. -/
def Call.possible (cluster : Cluster) : (call : Call) → Option call.Answer → Option call.Answer
  | .create kind object, some (.ok _) => some (cluster.answer (.create kind object)).1
  | _, answer => answer

def Call.isCreate : Call → Bool
  | .create _ _ => true
  | _ => false

/-- A cluster beside a backend, which says how the calls fare: it answers them in any way that is
possible. A call that succeeds has its effect on the cluster. A creation that does not may have it all
the same, as `lands` tells; a write that does not has none. -/
def Backend.over (backend : Backend σ) (lands : σ → Bool) : Backend (σ × Cluster) where
  isCancelled state := backend.isCancelled state.1
  perform call state :=
    let (told, after) := backend.perform call state.1
    let answer := call.possible state.2 told
    let effective := call.succeeded answer || call.isCreate && lands after
    (answer, after, if effective then (state.2.answer call).2 else state.2)

theorem Call.exists_of_succeeded {call : Call} {answer : Option call.Answer}
    (hsucceeded : call.succeeded answer = true) : ∃ value, answer = some (.ok value) := by
  rcases answer with _ | (error | value)
  · cases hsucceeded
  · cases hsucceeded
  · exact ⟨value, rfl⟩

theorem Call.answer_of_possible {cluster : Cluster} {kind : ChildKind} {object made : kind.Object}
    {told : Option (Except ClusterError kind.Object)}
    (htold : (Call.create kind object).possible cluster told = some (.ok made)) :
    (cluster.answer (.create kind object)).1 = .ok made := by
  rcases told with _ | (error | value)
  · cases htold
  · cases htold
  · exact Option.some.inj htold

namespace Exchange

/-- What an exchange may do to a cluster. -/
structure Affects (exchange : Exchange) (before after : Cluster) : Prop where
  servers : ¬exchange.Wrote → after.servers = before.servers
  children : before.ChildrenStay after
  created : ∀ (kind : ChildKind) object made, exchange = ⟨.create kind object, some (.ok made)⟩ →
    (after.store (.child kind)).find? (kind.key object) = some object

theorem affects_perform (backend : Backend σ) (lands : σ → Bool) (call : Call)
    (state : σ × Cluster) :
    let performed := (backend.over lands).perform call state
    Affects ⟨call, performed.1⟩ state.2 performed.2.2 := by
  intro performed
  have hafter : performed.2.2 =
      if (call.succeeded performed.1 || call.isCreate && lands performed.2.1) = true then
        (state.2.answer call).2
      else state.2 := rfl
  refine ⟨?_, ?_, ?_⟩
  · intro hunwritten
    rw [hafter]
    split
    · rename_i heffective
      refine state.2.servers_answer ?_
      rintro key status rfl
      -- A write has its effect only if it succeeds.
      have hsucceeded : Call.succeeded (.writeStatus key status) performed.1 = true :=
        (Bool.or_false _).symm.trans heffective
      obtain ⟨_, hanswer⟩ := Call.exists_of_succeeded hsucceeded
      exact hunwritten ⟨key, status, congrArg (Exchange.mk _) hanswer⟩
    · rfl
  · rw [hafter]
    split
    · exact state.2.childrenStay_answer call
    · exact .refl state.2
  · intro kind object made hexchange
    obtain ⟨rfl, hanswer⟩ := Exchange.mk.inj hexchange
    have htold : performed.1 = some (.ok made) := eq_of_heq hanswer
    have heffective : performed.2.2 = (state.2.answer (.create kind object)).2 := by
      rw [hafter, htold]
      exact if_pos rfl
    rw [heffective]
    exact state.2.find?_answer_create (Call.answer_of_possible htold)

namespace Chain

variable {log : List Exchange} {before after : Cluster}

theorem servers_eq (hchain : Chain Affects log before after)
    (hlog : ∀ exchange ∈ log, ¬exchange.Wrote) : after.servers = before.servers := by
  induction log generalizing before with
  | nil => exact congrArg Cluster.servers hchain
  | cons exchange rest ih =>
      obtain ⟨between, haffects, hrest⟩ := hchain
      rw [List.forall_mem_cons] at hlog
      exact (ih hrest hlog.2).trans (haffects.servers hlog.1)

theorem childrenStay (hchain : Chain Affects log before after) : before.ChildrenStay after := by
  induction log generalizing before with
  | nil =>
      obtain rfl : after = before := hchain
      exact .refl after
  | cons exchange rest ih =>
      obtain ⟨between, haffects, hrest⟩ := hchain
      exact haffects.children.trans (ih hrest)

theorem find?_created (hchain : Chain Affects log before after) {kind : ChildKind}
    {object made : kind.Object}
    (hmem : Exchange.mk (.create kind object) (some (.ok made)) ∈ log) :
    (after.store (.child kind)).find? (kind.key object) = some object := by
  induction log generalizing before with
  | nil => cases hmem
  | cons exchange rest ih =>
      obtain ⟨between, haffects, hrest⟩ := hchain
      rcases List.mem_cons.mp hmem with hfirst | hlater
      · exact childrenStay hrest _ _ _ (haffects.created kind object made hfirst.symm)
      · exact ih hrest hlater

end Chain

end Exchange

namespace Pass

/-- The calls of a pass go in one order and all for its key, wherever it is stopped. If it is answered
all that it asks, as it is where nothing is cancelled and every call is answered, it takes its course;
if not, it ends as cancelled, and only then. If it fails, it was not told that a status was written.
And where a write has its effect only if it succeeds, a pass that fails leaves all records as they
were, and all children: those that were there, and those that it created. -/
theorem reconcile_discipline (backend : Backend σ) (lands : σ → Bool) (now : String) (key : Key)
    (state : σ) (cluster : Cluster) :
    let log := (reconcile now key).exchanges backend state
    let outcome := ((reconcile now key).run backend state).1
    let stored := (reconcile now key).exchanges (backend.over lands) (state, cluster)
    let ended := (reconcile now key).run (backend.over lands) (state, cluster)
    log.map (fun exchange => exchange.call.label) <+: agenda key ∧
      (backend.AnswersAll → (reconcile now key).Complete log) ∧
      ((reconcile now key).Complete log →
        outcome ≠ .error .cancelled ∧ Course now key log outcome) ∧
      (¬(reconcile now key).Complete log → outcome = .error .cancelled) ∧
      (∀ error, outcome = .error error → ∀ exchange ∈ log, ¬exchange.Wrote) ∧
      ∀ error, ended.1 = .error error →
        ended.2.2.servers = cluster.servers ∧ cluster.ChildrenStay ended.2.2 ∧
          ∀ kind object made, Exchange.mk (.create kind object) (some (.ok made)) ∈ stored →
            (ended.2.2.store (.child kind)).find? (kind.key object) = some object := by
  intro log outcome stored ended
  have htrace : (reconcile now key).Trace log outcome :=
    trace_exchanges backend (reconcile now key) state
  refine ⟨?_, ?_, ?_, ?_, ?_, ?_⟩
  · exact (follows_reconcile key now).prefix_of_trace htrace
  · intro hanswers
    exact complete_exchanges hanswers (reconcile now key) state
  · intro hcomplete
    exact ⟨(complete_iff_ne_cancelled htrace).mp hcomplete, course_of_trace htrace hcomplete⟩
  · intro hshort
    by_contra houtcome
    exact hshort ((complete_iff_ne_cancelled htrace).mpr houtcome)
  · intro error herror
    rw [herror] at htrace
    exact not_wrote_of_failed htrace
  · intro error herror
    have hstored : (reconcile now key).Trace stored ended.1 :=
      trace_exchanges (backend.over lands) (reconcile now key) (state, cluster)
    have hchain : Exchange.Chain Exchange.Affects stored cluster ended.2.2 :=
      chain_exchanges (backend.over lands) Prod.snd (Exchange.affects_perform backend lands)
        (reconcile now key) (state, cluster)
    rw [herror] at hstored
    refine ⟨hchain.servers_eq (not_wrote_of_failed hstored), hchain.childrenStay, ?_⟩
    intro kind object made hmem
    exact hchain.find?_created hmem

/-- The service cannot be created: the route is not tried, and the deployment stays. The same pass,
stopped before its first call, ends as cancelled. -/
theorem reconcile_discipline_refusedService :
    let key : Key := ⟨"default", "web"⟩
    let server : Server :=
      ⟨{ Metadata.empty with name := some "web", uid := some "17" }, default, none⟩
    let cluster : Cluster := ⟨⟨[(key, server)]⟩, .empty, .empty, .empty⟩
    let refusal := Cluster.refusal "no" "Forbidden" 403
    let backend : Backend Unit := ⟨fun _ => false, fun call _ => match call with
      | .fetch _ => (some (.ok (some server)), ())
      | .create .service _ => (some (.error refusal), ())
      | .create _ object => (some (.ok object), ())
      | .get _ _ => (some (.ok none), ())
      | .writeStatus _ _ => (some (.ok ()), ())⟩
    let stopped : Backend Unit := { backend with isCancelled := fun _ => true }
    let log := (reconcile "t1" key).exchanges backend ()
    let ended := (reconcile "t1" key).run (backend.over fun _ => false) ((), cluster)
    let deployment := Blueprint.deployment ⟨key, server.controllerReference?, server.spec⟩
    log.map (fun exchange => exchange.call.name) =
        ["fetch MCPServer", "create Deployment", "create Service"] ∧
      Course "t1" key log (.error (.create .service key refusal)) ∧
      ((reconcile "t1" key).run stopped ()).1 = .error .cancelled ∧
      ended.1 = .error (.create .service key refusal) ∧ ended.2.2.servers = cluster.servers ∧
      ended.2.2.deployments.find? key = some deployment := by
  intro key server cluster refusal backend stopped log ended deployment
  have hanswers : backend.AnswersAll := by
    refine ⟨fun _ => rfl, fun call state => ?_⟩
    cases call with
    | fetch key => exact ⟨_, _, rfl⟩
    | create kind object => cases kind <;> exact ⟨_, _, rfl⟩
    | get kind key => exact ⟨_, _, rfl⟩
    | writeStatus key status => exact ⟨_, _, rfl⟩
  obtain ⟨_, hcomplete, hcourse, _, _, hfailed⟩ :=
    reconcile_discipline backend (fun _ => false) "t1" key () cluster
  obtain ⟨_, _, _, hcancelled, _, _⟩ :=
    reconcile_discipline stopped (fun _ => false) "t1" key () cluster
  have hended : ended.1 = .error (.create .service key refusal) := by decide +kernel
  obtain ⟨hservers, _, hcreated⟩ := hfailed _ hended
  refine ⟨by decide +kernel, (hcourse (hcomplete hanswers)).2, hcancelled ?_, hended, hservers, ?_⟩
  · rintro ⟨answer, later, ⟨⟩, _⟩
  · -- The deployment is the first that is created, after the fetch.
    exact hcreated .deployment deployment deployment (.tail _ (.head _))

end Pass

end ServerOperator
