import ServerOperator.Proofs.Guarantee

/-!
# The order of the calls, and how a pass may fail

A pass makes its calls in one order, all for its own key, and it fails only where an answer makes it
fail. Both are read off the pass itself, part by part, so they hold whatever answers the calls,
wherever the pass is stopped, and in whatever way several passes are mixed.
-/

namespace ServerOperator

/-- What a call does, and for which key. -/
def Call.label (call : Call) : String × Key :=
  (call.name, call.key)

namespace Pass

/-- The calls go along a list of labels. Where the pass finishes, `post` holds of the value and of
the labels that are left. -/
def Follows (post : α → List (String × Key) → Prop) : List (String × Key) → Pass α → Prop
  | remaining, finished value => post value remaining
  | _, failed _ => True
  | remaining, ask call next =>
      ∃ later, remaining = call.label :: later ∧ ∀ answer, (next answer).Follows post later

/-- As long as the answers keep to `rely`, only allowed errors make the pass fail. -/
def FailsOnly (rely : (call : Call) → call.Answer → Prop) (allowed : PassError → Prop) :
    Pass α → Prop
  | finished _ => True
  | failed error => allowed error
  | ask call next => ∀ answer, rely call answer → (next answer).FailsOnly rely allowed

theorem Follows.bind {middle : α → List (String × Key) → Prop}
    {post : β → List (String × Key) → Prop} {labels : List (String × Key)} {pass : Pass α}
    {rest : α → Pass β} (hpass : pass.Follows middle labels)
    (hrest : ∀ value remaining, middle value remaining → (rest value).Follows post remaining) :
    (pass >>= rest).Follows post labels := by
  induction pass generalizing labels with
  | finished value => exact hrest value labels hpass
  | failed error => trivial
  | ask call next ih =>
      obtain ⟨later, hlabels, hnext⟩ := hpass
      exact ⟨later, hlabels, fun answer => ih answer (hnext answer)⟩

/-- A trace makes the first of the calls, in their order. -/
theorem Follows.prefix_of_trace {post : α → List (String × Key) → Prop}
    {labels : List (String × Key)} {pass : Pass α} (hpass : pass.Follows post labels)
    {log : List Exchange} {outcome : Except PassError α} (htrace : pass.Trace log outcome) :
    log.map (fun exchange => exchange.call.label) <+: labels := by
  induction htrace generalizing labels with
  | finished value => exact List.nil_prefix
  | failed error => exact List.nil_prefix
  | stopped call next => exact List.nil_prefix
  | abandoned call next =>
      obtain ⟨later, rfl, _⟩ := hpass
      exact List.prefix_append [call.label] later
  | answered call next answer later ih =>
      obtain ⟨remaining, rfl, hnext⟩ := hpass
      rw [List.map_cons, List.cons_prefix_cons]
      exact ⟨rfl, ih (hnext answer)⟩

theorem FailsOnly.bind {rely : (call : Call) → call.Answer → Prop} {allowed : PassError → Prop}
    {pass : Pass α} {rest : α → Pass β} (hpass : pass.FailsOnly rely allowed)
    (hrest : ∀ value, (rest value).FailsOnly rely allowed) :
    (pass >>= rest).FailsOnly rely allowed := by
  induction pass with
  | finished value => exact hrest value
  | failed error => exact hpass
  | ask call next ih => exact fun answer hanswer => ih answer (hpass answer hanswer)

/-- A pass that is answered all that it asks fails only as is allowed. -/
theorem FailsOnly.allowed_of_complete {rely : (call : Call) → call.Answer → Prop}
    {allowed : PassError → Prop} {pass : Pass α} (hpass : pass.FailsOnly rely allowed)
    {log : List Exchange} {error : PassError} (hcomplete : pass.Complete log)
    (htrace : pass.Trace log (.error error))
    (hrely : ∀ exchange ∈ log, ∀ answer, exchange.answer = some answer →
      rely exchange.call answer) : allowed error := by
  induction pass generalizing log with
  | finished value => cases htrace
  | failed failure =>
      cases htrace
      exact hpass
  | ask call next ih =>
      obtain ⟨answer, later, rfl, hlater⟩ := hcomplete
      rw [List.forall_mem_cons] at hrely
      cases htrace with
      | answered _ _ _ hrest => exact ih answer (hpass answer (hrely.1 answer rfl)) hlater hrest hrely.2

/-- The calls of a pass: the record is fetched, each child is created, then each is read, and the
status is written. -/
def agenda (key : Key) : List (String × Key) :=
  [("fetch " ++ serverKind, key)] ++ ChildKind.all.map (fun kind => ("create " ++ kind.name, key)) ++
    ChildKind.all.map (fun kind => ("get " ++ kind.name, key)) ++ [("write " ++ serverKind, key)]

example (key : Key) : (agenda key).map Prod.fst =
    ["fetch MCPServer", "create Deployment", "create Service", "create Route", "get Deployment",
      "get Service", "get Route", "write MCPServer"] :=
  rfl

/-! ### The order of the parts -/

section Order

variable (key : Key) (blueprint : Blueprint) (kind : ChildKind) (later : List (String × Key))

theorem follows_fetch :
    (fetch key).Follows (fun _ remaining => remaining = later)
      (("fetch " ++ serverKind, key) :: later) := by
  refine ⟨later, rfl, ?_⟩
  intro answer
  cases answer with
  | ok found => rfl
  | error source => trivial

theorem follows_ensure :
    (ensure blueprint kind).Follows (fun _ remaining => remaining = later)
      (("create " ++ kind.name, blueprint.key) :: later) := by
  have hlabel : (Call.create kind (blueprint.child kind)).label =
      ("create " ++ kind.name, blueprint.key) :=
    congrArg (Prod.mk ("create " ++ kind.name)) (blueprint.key_child kind)
  refine ⟨later, by rw [hlabel], ?_⟩
  intro answer
  cases answer with
  | ok object => rfl
  | error source =>
      change (if source.isAlreadyExists = true then finished EnsureOutcome.alreadyExists
        else failed (.create kind blueprint.key source)).Follows _ later
      split
      · rfl
      · trivial

theorem follows_ensureAll :
    (ensureAll blueprint).Follows (fun _ remaining => remaining = later)
      (ChildKind.all.map (fun kind => ("create " ++ kind.name, blueprint.key)) ++ later) := by
  refine (follows_ensure blueprint .deployment _).bind ?_
  rintro _ _ rfl
  refine (follows_ensure blueprint .service _).bind ?_
  rintro _ _ rfl
  refine (follows_ensure blueprint .route later).bind ?_
  rintro _ _ rfl
  rfl

theorem follows_evaluate :
    (evaluate key kind).Follows (fun _ remaining => remaining = later)
      (("get " ++ kind.name, key) :: later) :=
  ⟨later, rfl, fun _ => rfl⟩

theorem follows_evaluateAll :
    (evaluateAll key).Follows (fun _ remaining => remaining = later)
      (ChildKind.all.map (fun kind => ("get " ++ kind.name, key)) ++ later) := by
  refine (follows_evaluate key .deployment _).bind ?_
  rintro _ _ rfl
  refine (follows_evaluate key .service _).bind ?_
  rintro _ _ rfl
  refine (follows_evaluate key .route later).bind ?_
  rintro _ _ rfl
  rfl

theorem follows_persist (fetched : Option ServerStatus) (status : ServerStatus) :
    (persist key fetched status).Follows (fun _ _ => True) [("write " ++ serverKind, key)] := by
  unfold persist
  split
  · trivial
  · refine ⟨[], rfl, ?_⟩
    intro answer
    cases answer <;> trivial

theorem follows_tend (now : String) (server : Server) :
    (tend now key server).Follows (fun _ _ => True) (agenda key).tail := by
  unfold tend
  cases server.controllerReference? with
  | none => trivial
  | some owner =>
      refine (follows_ensureAll ⟨key, some owner, server.spec⟩ _).bind ?_
      rintro _ _ rfl
      refine (follows_evaluateAll key [("write " ++ serverKind, key)]).bind ?_
      rintro observed _ rfl
      exact (follows_persist key _ _).bind fun _ _ _ => trivial

theorem follows_reconcile (now : String) :
    (reconcile now key).Follows (fun _ _ => True) (agenda key) := by
  refine (follows_fetch key _).bind ?_
  rintro found _ rfl
  cases found with
  | none => trivial
  | some server => exact follows_tend key now server

end Order

/-! ### The errors of the parts -/

section Errors

variable {rely : (call : Call) → call.Answer → Prop} {allowed : PassError → Prop} {key : Key}

theorem failsOnly_ensure {blueprint : Blueprint} {kind : ChildKind}
    (hcreate : ∀ source, rely (.create kind (blueprint.child kind)) (.error source) →
      source.isAlreadyExists = false → allowed (.create kind blueprint.key source)) :
    (ensure blueprint kind).FailsOnly rely allowed := by
  intro answer hanswer
  cases answer with
  | ok object => trivial
  | error source =>
      change (if source.isAlreadyExists = true then finished EnsureOutcome.alreadyExists
        else failed (.create kind blueprint.key source)).FailsOnly rely allowed
      split
      · trivial
      · rename_i hrefused
        exact hcreate source hanswer (Bool.eq_false_iff.mpr hrefused)

theorem failsOnly_evaluateAll : (evaluateAll key).FailsOnly rely allowed :=
  fun _ _ _ _ _ _ => trivial

theorem failsOnly_persist {fetched : Option ServerStatus} {status : ServerStatus}
    (hwrite : ∀ source, rely (.writeStatus key status) (.error source) →
      allowed (.status key source)) :
    (persist key fetched status).FailsOnly rely allowed := by
  unfold persist
  split
  · trivial
  · intro answer hanswer
    cases answer with
    | ok done => trivial
    | error source => exact hwrite source hanswer

theorem failsOnly_tend {now : String} {server : Server}
    (howner : server.controllerReference? = none → allowed (.ownerReference key))
    (hcreate : ∀ kind object source, rely (.create kind object) (.error source) →
      source.isAlreadyExists = false → allowed (.create kind key source))
    (hwrite : ∀ status source, rely (.writeStatus key status) (.error source) →
      allowed (.status key source)) :
    (tend now key server).FailsOnly rely allowed := by
  unfold tend
  cases hreference : server.controllerReference? with
  | none => exact howner hreference
  | some owner =>
      have hensure (kind : ChildKind) :
          (ensure ⟨key, some owner, server.spec⟩ kind).FailsOnly rely allowed :=
        failsOnly_ensure (hcreate kind _)
      have hensureAll : (ensureAll ⟨key, some owner, server.spec⟩).FailsOnly rely allowed :=
        (hensure .deployment).bind fun _ => (hensure .service).bind fun _ =>
          (hensure .route).bind fun _ => trivial
      refine hensureAll.bind fun _ => failsOnly_evaluateAll.bind fun observed => ?_
      exact (failsOnly_persist (hwrite _)).bind fun _ => trivial

theorem failsOnly_reconcile {now : String}
    (hfetch : ∀ source, rely (.fetch key) (.error source) → allowed (.fetch key source))
    (htend : ∀ server, rely (.fetch key) (.ok (some server)) →
      (tend now key server).FailsOnly rely allowed) :
    (reconcile now key).FailsOnly rely allowed := by
  intro answer hanswer
  rcases answer with source | (_ | server)
  · exact hfetch source hanswer
  · trivial
  · exact htend server hanswer

/-- Only from outside is a pass cancelled. -/
theorem reconcile_failsOnly_ne_cancelled (now : String) (key : Key) :
    (reconcile now key).FailsOnly (fun _ _ => True) (· ≠ .cancelled) := by
  apply failsOnly_reconcile
  · intro source _ hcancelled
    cases hcancelled
  · intro server _
    apply failsOnly_tend
    · intro _ hcancelled
      cases hcancelled
    · intro kind object source _ _ hcancelled
      cases hcancelled
    · intro status source _ hcancelled
      cases hcancelled

/-- A pass is cancelled exactly if it was not answered all that it asked. -/
theorem complete_iff_ne_cancelled {now : String} {log : List Exchange}
    {outcome : Except PassError Action} (htrace : (reconcile now key).Trace log outcome) :
    (reconcile now key).Complete log ↔ outcome ≠ .error .cancelled := by
  refine ⟨?_, htrace.complete⟩
  rintro hcomplete rfl
  have hpass := reconcile_failsOnly_ne_cancelled now key
  exact hpass.allowed_of_complete hcomplete htrace (fun _ _ _ _ => trivial) rfl

end Errors

end Pass

end ServerOperator
