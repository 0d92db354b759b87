import ServerOperator.Cluster.Basic
import ServerOperator.Pass.Reconcile
import ServerOperator.Proofs.Report

/-!
# Traces of a pass

A run of a pass is described by its exchanges: the calls that were started, each with its answer
unless it was abandoned. Which exchanges are possible, and how the pass then ends, depends on the
pass alone: `Pass.Trace` says so without any backend, and every run keeps to it. Traces of a pass
in two parts fall into traces of the parts, so what a whole pass can do is read off its parts.
-/

namespace ServerOperator

/-- A call that was started, with its answer unless it was abandoned. -/
structure Exchange where
  call : Call
  answer : Option call.Answer

/-- Nothing is cancelled, and every call is answered. -/
structure Backend.AnswersAll (backend : Backend σ) : Prop where
  running : ∀ state, backend.isCancelled state = false
  answers : ∀ call state, ∃ answer after, backend.perform call state = (some answer, after)

theorem Cluster.answersAll_backend : Cluster.backend.AnswersAll :=
  ⟨fun _ => rfl, fun _ _ => ⟨_, _, rfl⟩⟩

/-- States along exchanges, each of which shifts one to the next. -/
def Exchange.Chain (shift : Exchange → σ → σ → Prop) : List Exchange → σ → σ → Prop
  | [], before, after => after = before
  | exchange :: rest, before, after =>
      ∃ between, shift exchange before between ∧ Chain shift rest between after

namespace Pass

def exchanges (backend : Backend σ) : Pass α → σ → List Exchange
  | finished _, _ => []
  | failed _, _ => []
  | ask call next, state =>
      if backend.isCancelled state then []
      else
        match backend.perform call state with
        | (some answer, after) => ⟨call, some answer⟩ :: (next answer).exchanges backend after
        | (none, _) => [⟨call, none⟩]

section Ask

variable {backend : Backend σ} {call : Call} {next : call.Answer → Pass α} {state after : σ}

theorem ask_stopped (hcancelled : backend.isCancelled state = true) :
    (ask call next).exchanges backend state = [] ∧
      (ask call next).run backend state = (.error .cancelled, state) := by
  simp only [exchanges, run, hcancelled, if_true, and_self]

theorem ask_abandoned (hrunning : backend.isCancelled state = false)
    (hperform : backend.perform call state = (none, after)) :
    (ask call next).exchanges backend state = [⟨call, none⟩] ∧
      (ask call next).run backend state = (.error .cancelled, after) := by
  simp only [exchanges, run, hrunning, hperform, Bool.false_eq_true, if_false, and_self]

theorem ask_answered {answer : call.Answer} (hrunning : backend.isCancelled state = false)
    (hperform : backend.perform call state = (some answer, after)) :
    (ask call next).exchanges backend state =
        ⟨call, some answer⟩ :: (next answer).exchanges backend after ∧
      (ask call next).run backend state = (next answer).run backend after := by
  simp only [exchanges, run, hrunning, hperform, Bool.false_eq_true, if_false, and_self]

end Ask

/-- What a pass can exchange, and how it ends then. Before each call it may be stopped, and each call
may be abandoned. -/
inductive Trace : Pass α → List Exchange → Except PassError α → Prop where
  | finished (value : α) : Trace (.finished value) [] (.ok value)
  | failed (error : PassError) : Trace (.failed error) [] (.error error)
  | stopped (call : Call) (next : call.Answer → Pass α) :
      Trace (.ask call next) [] (.error .cancelled)
  | abandoned (call : Call) (next : call.Answer → Pass α) :
      Trace (.ask call next) [⟨call, none⟩] (.error .cancelled)
  | answered (call : Call) (next : call.Answer → Pass α) (answer : call.Answer)
      {log : List Exchange} {outcome : Except PassError α} (later : Trace (next answer) log outcome) :
      Trace (.ask call next) (⟨call, some answer⟩ :: log) outcome

theorem trace_exchanges (backend : Backend σ) (pass : Pass α) (state : σ) :
    pass.Trace (pass.exchanges backend state) (pass.run backend state).1 := by
  induction pass generalizing state with
  | finished value => exact .finished value
  | failed error => exact .failed error
  | ask call next ih =>
      cases hcancelled : backend.isCancelled state with
      | true =>
          rw [(ask_stopped hcancelled).1, (ask_stopped hcancelled).2]
          exact .stopped call next
      | false =>
          cases hperform : backend.perform call state with
          | mk answer after =>
              cases answer with
              | none =>
                  rw [(ask_abandoned hcancelled hperform).1, (ask_abandoned hcancelled hperform).2]
                  exact .abandoned call next
              | some answer =>
                  rw [(ask_answered hcancelled hperform).1, (ask_answered hcancelled hperform).2]
                  exact .answered call next answer (ih answer after)

/-- The pass was answered whatever it asked, up to its own end. -/
def Complete : Pass α → List Exchange → Prop
  | finished _, log => log = []
  | failed _, log => log = []
  | ask call next, log =>
      ∃ answer later, log = ⟨call, some answer⟩ :: later ∧ (next answer).Complete later

theorem complete_exchanges {backend : Backend σ} (hanswers : backend.AnswersAll) (pass : Pass α)
    (state : σ) : pass.Complete (pass.exchanges backend state) := by
  induction pass generalizing state with
  | finished value => rfl
  | failed error => rfl
  | ask call next ih =>
      obtain ⟨answer, after, hperform⟩ := hanswers.answers call state
      rw [(ask_answered (hanswers.running state) hperform).1]
      exact ⟨answer, _, rfl, ih answer after⟩

/-- What is seen of the state shifts along the exchanges of a run. -/
theorem chain_exchanges {shift : Exchange → τ → τ → Prop} (backend : Backend σ) (view : σ → τ)
    (hshift : ∀ call state, shift ⟨call, (backend.perform call state).1⟩ (view state)
      (view (backend.perform call state).2)) (pass : Pass α) (state : σ) :
    Exchange.Chain shift (pass.exchanges backend state) (view state)
      (view (pass.run backend state).2) := by
  induction pass generalizing state with
  | finished value => rfl
  | failed error => rfl
  | ask call next ih =>
      cases hcancelled : backend.isCancelled state with
      | true =>
          rw [(ask_stopped hcancelled).1, (ask_stopped hcancelled).2]
          rfl
      | false =>
          have hfirst := hshift call state
          cases hperform : backend.perform call state with
          | mk answer after =>
              rw [hperform] at hfirst
              cases answer with
              | none =>
                  rw [(ask_abandoned hcancelled hperform).1, (ask_abandoned hcancelled hperform).2]
                  exact ⟨view after, hfirst, rfl⟩
              | some answer =>
                  rw [(ask_answered hcancelled hperform).1, (ask_answered hcancelled hperform).2]
                  exact ⟨view after, hfirst, ih answer after⟩

namespace Trace

variable {α β : Type} {log : List Exchange}

/-- Only a pass that was cancelled was not answered all that it asked. -/
theorem complete {pass : Pass α} {outcome : Except PassError α} (htrace : pass.Trace log outcome)
    (houtcome : outcome ≠ .error .cancelled) : pass.Complete log := by
  induction htrace with
  | finished value => rfl
  | failed error => rfl
  | stopped call next => exact absurd rfl houtcome
  | abandoned call next => exact absurd rfl houtcome
  | answered call next answer later ih => exact ⟨answer, _, rfl, ih houtcome⟩

/-- A pass in two parts fails in the first, or the second goes on with the value of the first. -/
theorem bind_cases {pass : Pass α} {rest : α → Pass β} {outcome : Except PassError β}
    (htrace : (pass >>= rest).Trace log outcome) :
    (∃ error, outcome = .error error ∧ pass.Trace log (.error error)) ∨
      ∃ value first second, log = first ++ second ∧ pass.Trace first (.ok value) ∧
        (rest value).Trace second outcome := by
  induction pass generalizing log with
  | finished value => exact .inr ⟨value, [], log, rfl, .finished value, htrace⟩
  | failed error =>
      cases htrace
      exact .inl ⟨error, rfl, .failed error⟩
  | ask call next ih =>
      -- The first call is one of the first part; the answer decides which parts are left.
      change (Pass.ask call fun answer => next answer >>= rest).Trace log outcome at htrace
      cases htrace with
      | stopped => exact .inl ⟨.cancelled, rfl, .stopped call next⟩
      | abandoned => exact .inl ⟨.cancelled, rfl, .abandoned call next⟩
      | answered _ _ answer later =>
          rcases ih answer later with ⟨error, houtcome, hfirst⟩ |
            ⟨value, first, second, hlog, hfirst, hsecond⟩
          · exact .inl ⟨error, houtcome, .answered call next answer hfirst⟩
          · refine .inr ⟨value, ⟨call, some answer⟩ :: first, second, ?_, ?_, hsecond⟩
            · rw [hlog]
              rfl
            · exact .answered call next answer hfirst

theorem bind_ok {pass : Pass α} {rest : α → Pass β} {value : β}
    (htrace : (pass >>= rest).Trace log (.ok value)) :
    ∃ middle first second, log = first ++ second ∧ pass.Trace first (.ok middle) ∧
      (rest middle).Trace second (.ok value) := by
  rcases htrace.bind_cases with ⟨error, houtcome, _⟩ | hparts
  · cases houtcome
  · exact hparts

theorem ask_ok {call : Call} {next : call.Answer → Pass α} {value : α}
    (htrace : (Pass.ask call next).Trace log (.ok value)) :
    ∃ answer later, log = ⟨call, some answer⟩ :: later ∧ (next answer).Trace later (.ok value) := by
  cases htrace with
  | answered _ _ answer later => exact ⟨answer, _, rfl, later⟩

theorem finished_log {value : α} {outcome : Except PassError α}
    (htrace : (Pass.finished value).Trace log outcome) : log = [] := by
  cases htrace
  rfl

theorem finished_ok {value result : α} (htrace : (Pass.finished value).Trace log (.ok result)) :
    log = [] ∧ result = value := by
  cases htrace
  exact ⟨rfl, rfl⟩

end Trace

/-! ### The parts of a pass that end well -/

section Parts

variable {log : List Exchange} {key : Key} {blueprint : Blueprint} {kind : ChildKind}

theorem trace_fetch_ok {found : Option Server} (htrace : (fetch key).Trace log (.ok found)) :
    log = [⟨.fetch key, some (.ok found)⟩] := by
  obtain ⟨answer, later, rfl, hlater⟩ := Trace.ask_ok htrace
  cases answer with
  | error source => cases hlater
  | ok server =>
      obtain ⟨rfl, rfl⟩ := Trace.finished_ok hlater
      rfl

/-- The child was created, or there was one. -/
def accepted (answer : Except ClusterError kind.Object) : Prop :=
  ∀ error, answer = .error error → error.isAlreadyExists = true

theorem trace_ensure_ok {outcome : EnsureOutcome}
    (htrace : (ensure blueprint kind).Trace log (.ok outcome)) :
    ∃ answer, log = [⟨.create kind (blueprint.child kind), some answer⟩] ∧ accepted answer := by
  obtain ⟨answer, later, rfl, hlater⟩ := Trace.ask_ok htrace
  cases answer with
  | ok object =>
      obtain ⟨rfl, _⟩ := Trace.finished_ok hlater
      refine ⟨.ok object, rfl, ?_⟩
      intro error herror
      cases herror
  | error source =>
      change (if source.isAlreadyExists = true then finished EnsureOutcome.alreadyExists
        else failed (.create kind blueprint.key source)).Trace later (.ok outcome) at hlater
      by_cases hexists : source.isAlreadyExists = true
      · rw [if_pos hexists] at hlater
        obtain ⟨rfl, _⟩ := Trace.finished_ok hlater
        refine ⟨.error source, rfl, ?_⟩
        intro error herror
        cases herror
        exact hexists
      · rw [if_neg hexists] at hlater
        cases hlater

theorem trace_evaluate_ok {condition : Condition}
    (htrace : (evaluate key kind).Trace log (.ok condition)) :
    ∃ answer, log = [⟨.get kind key, some answer⟩] ∧
      condition = kind.observed key.name answer := by
  obtain ⟨answer, later, rfl, hlater⟩ := Trace.ask_ok htrace
  obtain ⟨rfl, hcondition⟩ := Trace.finished_ok hlater
  exact ⟨answer, rfl, hcondition⟩

def creations (blueprint : Blueprint) (created : (kind : ChildKind) → Except ClusterError kind.Object) :
    List Exchange :=
  ChildKind.all.map fun kind => ⟨.create kind (blueprint.child kind), some (created kind)⟩

def readings (key : Key) (reads : Reads) : List Exchange :=
  ChildKind.all.map fun kind => ⟨.get kind key, some (reads kind)⟩

theorem trace_ensureAll_ok (htrace : (ensureAll blueprint).Trace log (.ok ())) :
    ∃ created, log = creations blueprint created ∧ ∀ kind, accepted (created kind) := by
  obtain ⟨_, _, _, rfl, hdeployment, hlater⟩ := Trace.bind_ok htrace
  obtain ⟨_, _, _, rfl, hservice, hlast⟩ := Trace.bind_ok hlater
  obtain ⟨_, _, _, rfl, hroute, hend⟩ := Trace.bind_ok hlast
  obtain ⟨deployment, rfl, hdeploymentAccepted⟩ := trace_ensure_ok hdeployment
  obtain ⟨service, rfl, hserviceAccepted⟩ := trace_ensure_ok hservice
  obtain ⟨route, rfl, hrouteAccepted⟩ := trace_ensure_ok hroute
  obtain ⟨rfl, _⟩ := Trace.finished_ok hend
  refine ⟨ChildKind.family deployment service route, rfl, ?_⟩
  intro kind
  cases kind with
  | deployment => exact hdeploymentAccepted
  | service => exact hserviceAccepted
  | route => exact hrouteAccepted

theorem trace_evaluateAll_ok {observed : List Condition}
    (htrace : (evaluateAll key).Trace log (.ok observed)) :
    ∃ reads, log = readings key reads ∧ observed = reads.conditions key.name := by
  obtain ⟨_, _, _, rfl, hdeployment, hlater⟩ := Trace.bind_ok htrace
  obtain ⟨_, _, _, rfl, hservice, hlast⟩ := Trace.bind_ok hlater
  obtain ⟨_, _, _, rfl, hroute, hend⟩ := Trace.bind_ok hlast
  obtain ⟨deployment, rfl, rfl⟩ := trace_evaluate_ok hdeployment
  obtain ⟨service, rfl, rfl⟩ := trace_evaluate_ok hservice
  obtain ⟨route, rfl, rfl⟩ := trace_evaluate_ok hroute
  obtain ⟨rfl, rfl⟩ := Trace.finished_ok hend
  exact ⟨ChildKind.family deployment service route, rfl, rfl⟩

/-- The exchange in which a status is written, if it is another one than was fetched. -/
def writing (key : Key) (fetched : Option ServerStatus) (status : ServerStatus) : List Exchange :=
  if some status = fetched then [] else [⟨.writeStatus key status, some (.ok ())⟩]

theorem trace_persist_ok {fetched : Option ServerStatus} {status : ServerStatus}
    (htrace : (persist key fetched status).Trace log (.ok ())) :
    log = writing key fetched status := by
  unfold persist at htrace
  unfold writing
  split
  · rename_i hsame
    rw [if_pos hsame] at htrace
    exact (Trace.finished_ok htrace).1
  · rename_i hchanged
    rw [if_neg hchanged] at htrace
    obtain ⟨answer, later, rfl, hlater⟩ := Trace.ask_ok htrace
    cases answer with
    | error source => cases hlater
    | ok done =>
        obtain ⟨rfl, _⟩ := Trace.finished_ok hlater
        rfl

end Parts

theorem trace_conclude_ok {log : List Exchange} {now : String} {key : Key}
    {fetched : Option ServerStatus} {reads : Reads} {action : Action}
    (htrace : (conclude now key fetched (reads.conditions key.name)).Trace log (.ok action)) :
    log = writing key fetched (reads.status key.name now fetched) ∧
      action = actionOf reads.overall := by
  rw [conclude_conditions] at htrace
  obtain ⟨_, _, _, rfl, hpersist, hend⟩ := Trace.bind_ok htrace
  obtain ⟨rfl, rfl⟩ := Trace.finished_ok hend
  rw [trace_persist_ok hpersist, List.append_nil]
  exact ⟨rfl, rfl⟩

/-- The pass over a record creates the children, reads them all, and writes what it made of the reads
unless that is what was fetched. -/
theorem trace_tend_ok {log : List Exchange} {now : String} {key : Key} {server : Server}
    {action : Action} (htrace : (tend now key server).Trace log (.ok action)) :
    ∃ owner created reads, server.controllerReference? = some owner ∧
      (∀ kind, accepted (created kind)) ∧
      log = creations ⟨key, some owner, server.spec⟩ created ++ (readings key reads ++
        writing key server.status (reads.status key.name now server.status)) ∧
      action = actionOf reads.overall := by
  unfold tend at htrace
  cases howner : server.controllerReference? with
  | none =>
      simp only [howner] at htrace
      cases htrace
  | some owner =>
      simp only [howner] at htrace
      obtain ⟨_, _, _, rfl, hensure, hobserve⟩ := Trace.bind_ok htrace
      obtain ⟨_, _, _, rfl, hevaluate, hconclude⟩ := Trace.bind_ok hobserve
      obtain ⟨created, rfl, haccepted⟩ := trace_ensureAll_ok hensure
      obtain ⟨reads, rfl, rfl⟩ := trace_evaluateAll_ok hevaluate
      obtain ⟨hlog, haction⟩ := trace_conclude_ok hconclude
      refine ⟨owner, created, reads, rfl, haccepted, ?_, haction⟩
      rw [hlog]

theorem trace_reconcile_ok {log : List Exchange} {now : String} {key : Key} {action : Action}
    (htrace : (reconcile now key).Trace log (.ok action)) :
    (log = [⟨.fetch key, some (.ok none)⟩] ∧ action = .awaitChange) ∨
      ∃ server later, log = ⟨.fetch key, some (.ok (some server))⟩ :: later ∧
        (tend now key server).Trace later (.ok action) := by
  obtain ⟨found, _, _, rfl, hfetch, hrest⟩ := Trace.bind_ok htrace
  rw [trace_fetch_ok hfetch]
  cases found with
  | none =>
      obtain ⟨rfl, rfl⟩ := Trace.finished_ok hrest
      exact .inl ⟨rfl, rfl⟩
  | some server => exact .inr ⟨server, _, rfl, hrest⟩

end Pass

end ServerOperator
