import ServerOperator.Proofs.Trace

/-!
# What a pass guarantees

A pass relies on the answers it gets and guarantees something of the calls it makes: as long as the
answers keep to `rely`, every call keeps to `guarantee`, and so does the value to `post`. This is
local to the pass, so it holds in whatever way the calls of several passes are mixed, and the parts
of a pass can be looked at one by one.
-/

namespace ServerOperator.Pass

/-- As long as the answers keep to `rely`, the calls keep to `guarantee` and the value to `post`. -/
def Keeps (rely : (call : Call) → call.Answer → Prop) (guarantee : Call → Prop) (post : α → Prop) :
    Pass α → Prop
  | finished value => post value
  | failed _ => True
  | ask call next =>
      guarantee call ∧ ∀ answer, rely call answer → (next answer).Keeps rely guarantee post

variable {rely : (call : Call) → call.Answer → Prop} {guarantee : Call → Prop}

theorem Keeps.bind {middle : α → Prop} {post : β → Prop} {pass : Pass α} {rest : α → Pass β}
    (hpass : pass.Keeps rely guarantee middle)
    (hrest : ∀ value, middle value → (rest value).Keeps rely guarantee post) :
    (pass >>= rest).Keeps rely guarantee post := by
  induction pass with
  | finished value => exact hrest value hpass
  | failed error => trivial
  | ask call next ih =>
      refine ⟨hpass.1, ?_⟩
      intro answer hanswer
      exact ih answer (hpass.2 answer hanswer)

/-- A guarantee holds along every trace in which the answers keep to what is relied on. -/
theorem Keeps.guarantee_of_trace {post : α → Prop} {pass : Pass α}
    (hpass : pass.Keeps rely guarantee post) {log : List Exchange}
    {outcome : Except PassError α} (htrace : pass.Trace log outcome)
    (hrely : ∀ exchange ∈ log, ∀ answer, exchange.answer = some answer →
      rely exchange.call answer) :
    ∀ exchange ∈ log, guarantee exchange.call := by
  induction htrace with
  | finished value => exact List.forall_mem_nil _
  | failed error => exact List.forall_mem_nil _
  | stopped call next => exact List.forall_mem_nil _
  | abandoned call next => exact List.forall_mem_singleton.mpr hpass.1
  | answered call next answer later ih =>
      rw [List.forall_mem_cons] at hrely ⊢
      exact ⟨hpass.1, ih (hpass.2 answer (hrely.1 answer rfl)) hrely.2⟩

/-! ### The parts of a pass -/

section Parts

variable {key : Key} {blueprint : Blueprint} {kind : ChildKind}

theorem keeps_fetch {post : Option Server → Prop} (hcall : guarantee (.fetch key))
    (hfound : ∀ found, rely (.fetch key) (.ok found) → post found) :
    (fetch key).Keeps rely guarantee post := by
  refine ⟨hcall, ?_⟩
  intro answer hanswer
  cases answer with
  | ok found => exact hfound found hanswer
  | error source => trivial

theorem keeps_ensure (hcall : guarantee (.create kind (blueprint.child kind))) :
    (ensure blueprint kind).Keeps rely guarantee fun _ => True := by
  refine ⟨hcall, ?_⟩
  intro answer _
  cases answer with
  | ok object => trivial
  | error source =>
      change (if source.isAlreadyExists = true then finished EnsureOutcome.alreadyExists
        else failed (.create kind blueprint.key source)).Keeps rely guarantee fun _ => True
      split <;> trivial

theorem keeps_ensureAll (hcalls : ∀ kind, guarantee (.create kind (blueprint.child kind))) :
    (ensureAll blueprint).Keeps rely guarantee fun _ => True := by
  refine (keeps_ensure (hcalls .deployment)).bind fun _ _ => ?_
  refine (keeps_ensure (hcalls .service)).bind fun _ _ => ?_
  exact (keeps_ensure (hcalls .route)).bind fun _ _ => trivial

theorem keeps_evaluate (hcall : guarantee (.get kind key)) :
    (evaluate key kind).Keeps rely guarantee fun condition =>
      ∃ answer, condition = kind.observed key.name answer :=
  ⟨hcall, fun answer _ => ⟨answer, rfl⟩⟩

theorem keeps_evaluateAll (hcalls : ∀ kind, guarantee (.get kind key)) :
    (evaluateAll key).Keeps rely guarantee fun observed =>
      ∃ reads : Reads, observed = reads.conditions key.name := by
  refine (keeps_evaluate (hcalls .deployment)).bind ?_
  rintro _ ⟨deployment, rfl⟩
  refine (keeps_evaluate (hcalls .service)).bind ?_
  rintro _ ⟨service, rfl⟩
  refine (keeps_evaluate (hcalls .route)).bind ?_
  rintro _ ⟨route, rfl⟩
  exact ⟨ChildKind.family deployment service route, rfl⟩

theorem keeps_persist {fetched : Option ServerStatus} {status : ServerStatus}
    (hcall : guarantee (.writeStatus key status)) :
    (persist key fetched status).Keeps rely guarantee fun _ => True := by
  unfold persist
  split
  · trivial
  · refine ⟨hcall, ?_⟩
    intro answer _
    cases answer <;> trivial

/-- The pass over a record keeps a guarantee that holds of the calls for its key, if it holds of the
children made for the record and of the status that is made of the one fetched and whatever is read. -/
theorem keeps_tend_of_owner {now : String} {server : Server}
    (hcreate : ∀ owner, server.controllerReference? = some owner →
      ∀ kind, guarantee (.create kind (Blueprint.child ⟨key, some owner, server.spec⟩ kind)))
    (hget : ∀ kind, guarantee (.get kind key))
    (hwrite : ∀ reads : Reads,
      guarantee (.writeStatus key (reads.status key.name now server.status))) :
    (tend now key server).Keeps rely guarantee fun _ => True := by
  unfold tend
  cases howner : server.controllerReference? with
  | none => trivial
  | some owner =>
      refine (keeps_ensureAll (hcreate owner howner)).bind fun _ _ => ?_
      refine (keeps_evaluateAll hget).bind ?_
      rintro _ ⟨reads, rfl⟩
      rw [conclude_conditions]
      exact (keeps_persist (hwrite reads)).bind fun _ _ => trivial

theorem keeps_tend {now : String} {server : Server}
    (hcreate : ∀ kind object, guarantee (.create kind object))
    (hget : ∀ kind, guarantee (.get kind key))
    (hwrite : ∀ reads : Reads,
      guarantee (.writeStatus key (reads.status key.name now server.status))) :
    (tend now key server).Keeps rely guarantee fun _ => True :=
  keeps_tend_of_owner (fun _ _ kind => hcreate kind _) hget hwrite

theorem keeps_reconcile {now : String} (hfetch : guarantee (.fetch key))
    (htend : ∀ server, rely (.fetch key) (.ok (some server)) →
      (tend now key server).Keeps rely guarantee fun _ => True) :
    (reconcile now key).Keeps rely guarantee fun _ => True := by
  have hfetched : (fetch key).Keeps rely guarantee fun found => rely (.fetch key) (.ok found) :=
    keeps_fetch hfetch fun _ hfound => hfound
  refine hfetched.bind ?_
  intro found hfound
  cases found with
  | none => trivial
  | some server => exact htend server hfound

end Parts

/-! ### What a pass found -/

section Found

variable {log : List Exchange} {outcome : Except PassError Action} {now : String} {key : Key}
  {server : Server}

theorem not_fetch_of_tend (htrace : (tend now key server).Trace log outcome) :
    ∀ exchange ∈ log, ∀ place, exchange.call ≠ .fetch place := by
  have hkeeps : (tend now key server).Keeps (fun _ _ => True)
      (fun call => ∀ place, call ≠ .fetch place) fun _ => True := by
    apply keeps_tend
    · intro kind object place hcall
      cases hcall
    · intro kind place hcall
      cases hcall
    · intro reads place hcall
      cases hcall
  exact hkeeps.guarantee_of_trace htrace fun _ _ _ _ => trivial

/-- A pass that found a record goes on with that record. -/
theorem trace_reconcile_found (htrace : (reconcile now key).Trace log outcome)
    (hfetched : Exchange.mk (.fetch key) (some (.ok (some server))) ∈ log) :
    ∃ later, log = ⟨.fetch key, some (.ok (some server))⟩ :: later ∧
      (tend now key server).Trace later outcome := by
  rcases htrace.bind_cases with ⟨error, rfl, hfetch⟩ | ⟨found, first, later, rfl, hfetch, hrest⟩
  · exfalso
    change (Pass.ask (.fetch key) fun answer => _).Trace log (.error error) at hfetch
    cases hfetch with
    | stopped => cases hfetched
    | abandoned => cases List.mem_singleton.mp hfetched
    | answered _ _ answer ended =>
        cases answer with
        | ok found => cases ended
        | error source =>
            cases ended
            cases List.mem_singleton.mp hfetched
  · rw [trace_fetch_ok hfetch] at hfetched ⊢
    rcases List.mem_cons.mp hfetched with hfirst | hlater
    · cases hfirst
      exact ⟨later, rfl, hrest⟩
    · exfalso
      cases found with
      | none =>
          rw [Trace.finished_log hrest] at hlater
          cases hlater
      | some other => exact not_fetch_of_tend hrest _ hlater key rfl

end Found

end ServerOperator.Pass
