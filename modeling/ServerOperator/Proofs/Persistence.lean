import ServerOperator.Proofs.Guarantee

/-!
# The status held on a record

Whatever answers the calls of a pass, the record under one key now holds a status: it is found with
that status, and a write that succeeds replaces it. A write that fails or is abandoned may have
replaced it too, without the pass being told. Nothing else touches the status.

What is held at the end of a run can be told from the exchanges: each of them shifts one held status
to the next.
-/

namespace ServerOperator

def Call.succeeded (call : Call) : Option call.Answer → Bool
  | some (.ok _) => true
  | _ => false

/-- The answer to a call while a status is held: if the record is found, then with that status. -/
def Call.truthful (key : Key) (held : Option ServerStatus) :
    (call : Call) → Option call.Answer → Option call.Answer
  | .fetch fetched, some (.ok (some server)) =>
      some (.ok (some (if fetched = key then { server with status := held } else server)))
  | _, answer => answer

/-- The status that is held after a call that had its effect. -/
def Call.leaves (key : Key) (held : Option ServerStatus) : Call → Option ServerStatus
  | .writeStatus written status => if written = key then some status else held
  | _ => held

/-- The record under a key holds a status; all else is left to the given backend, and also whether a
call that did not succeed had its effect all the same. -/
def Backend.holding (backend : Backend σ) (lands : σ → Bool) (key : Key) :
    Backend (σ × Option ServerStatus) where
  isCancelled state := backend.isCancelled state.1
  perform call state :=
    let (answer, after) := backend.perform call state.1
    let held := if call.succeeded answer || lands after then call.leaves key state.2 else state.2
    (call.truthful key state.2 answer, after, held)

theorem Call.truthful_found (key fetched : Key) (held : Option ServerStatus) (server : Server) :
    truthful key held (.fetch fetched) (some (.ok (some server))) =
      some (.ok (some (if fetched = key then { server with status := held } else server))) := rfl

theorem Backend.held_holding (backend : Backend σ) (lands : σ → Bool) (key : Key) (call : Call)
    (state : σ × Option ServerStatus) :
    ((backend.holding lands key).perform call state).2.2 =
      if call.succeeded (backend.perform call state.1).1 ||
          lands (backend.perform call state.1).2 then call.leaves key state.2
      else state.2 := rfl

namespace Exchange

/-- An exchange that is possible while one status is held, and that leaves another. -/
structure Shifts (key : Key) (exchange : Exchange) (before after : Option ServerStatus) : Prop where
  truthful : ∀ server, exchange = ⟨.fetch key, some (.ok (some server))⟩ → server.status = before
  moved : after = before ∨ ∃ status, exchange.call = .writeStatus key status ∧ after = some status
  written : ∀ status, exchange = ⟨.writeStatus key status, some (.ok ())⟩ → after = some status

def Leads (key : Key) : List Exchange → Option ServerStatus → Option ServerStatus → Prop
  | [], before, after => after = before
  | exchange :: rest, before, after =>
      ∃ middle, exchange.Shifts key before middle ∧ Leads key rest middle after

theorem truthful_fetch {key : Key} {held : Option ServerStatus}
    {answer : Option (Except ClusterError (Option Server))} {server : Server}
    (hanswer : Call.truthful key held (.fetch key) answer = some (.ok (some server))) :
    server.status = held := by
  rcases answer with _ | (error | (_ | found))
  · cases hanswer
  · cases hanswer
  · cases hanswer
  · rw [Call.truthful_found, if_pos rfl] at hanswer
    cases hanswer
    rfl

theorem moved_leaves (key : Key) (held : Option ServerStatus) (call : Call) :
    call.leaves key held = held ∨
      ∃ status, call = .writeStatus key status ∧ call.leaves key held = some status := by
  cases call with
  | writeStatus written status =>
      by_cases hkey : written = key
      · subst hkey
        exact .inr ⟨status, rfl, if_pos rfl⟩
      · exact .inl (if_neg hkey)
  | fetch fetched => exact .inl rfl
  | create kind object => exact .inl rfl
  | get kind fetched => exact .inl rfl

theorem shifts_perform (backend : Backend σ) (lands : σ → Bool) (key : Key) (call : Call)
    (state : σ × Option ServerStatus) :
    let performed := (backend.holding lands key).perform call state
    Shifts key ⟨call, performed.1⟩ state.2 performed.2.2 := by
  intro performed
  refine ⟨?_, ?_, ?_⟩
  · intro server hexchange
    obtain ⟨rfl, hanswer⟩ := Exchange.mk.inj hexchange
    exact truthful_fetch (eq_of_heq hanswer)
  · rw [Backend.held_holding]
    split
    · exact moved_leaves key state.2 call
    · exact .inl rfl
  · intro status hexchange
    obtain ⟨rfl, hanswer⟩ := Exchange.mk.inj hexchange
    have hperformed : (backend.perform (.writeStatus key status) state.1).1 = some (.ok ()) :=
      eq_of_heq hanswer
    rw [Backend.held_holding, hperformed]
    have hlanded (landed : Bool) :
        (Call.succeeded (.writeStatus key status) (some (.ok ())) || landed) = true := rfl
    rw [if_pos (hlanded _)]
    exact if_pos rfl

theorem leads_of_chain {key : Key} {log : List Exchange} {before after : Option ServerStatus}
    (hchain : Chain (Shifts key) log before after) : Leads key log before after := by
  induction log generalizing before with
  | nil => exact hchain
  | cons exchange rest ih =>
      obtain ⟨between, hshifts, hrest⟩ := hchain
      exact ⟨between, hshifts, ih hrest⟩

/-- The exchanges of a run lead from the status that was held to the one that is held at its end. -/
theorem leads_exchanges (backend : Backend σ) (lands : σ → Bool) (key : Key) (pass : Pass α)
    (state : σ × Option ServerStatus) :
    Leads key (pass.exchanges (backend.holding lands key) state) state.2
      (pass.run (backend.holding lands key) state).2.2 :=
  leads_of_chain (pass.chain_exchanges (backend.holding lands key) Prod.snd
    (shifts_perform backend lands key) state)

namespace Leads

variable {key : Key} {before after : Option ServerStatus} {log : List Exchange}

theorem append {first second : List Exchange} (hleads : Leads key (first ++ second) before after) :
    ∃ middle, Leads key first before middle ∧ Leads key second middle after := by
  induction first generalizing before with
  | nil => exact ⟨before, rfl, hleads⟩
  | cons exchange rest ih =>
      obtain ⟨shifted, hshifts, hrest⟩ := hleads
      obtain ⟨middle, hfirst, hsecond⟩ := ih hrest
      exact ⟨middle, ⟨shifted, hshifts, hfirst⟩, hsecond⟩

/-- What is held at the end was held before, or one of the calls wrote it. -/
theorem eq_or_written (hleads : Leads key log before after) :
    after = before ∨ ∃ exchange ∈ log, ∃ status,
      exchange.call = .writeStatus key status ∧ after = some status := by
  induction log generalizing before with
  | nil => exact .inl hleads
  | cons exchange rest ih =>
      obtain ⟨middle, hshifts, hrest⟩ := hleads
      rcases ih hrest with rfl | ⟨later, hmem, status, hcall, hafter⟩
      · rcases hshifts.moved with hkept | ⟨status, hcall, hwritten⟩
        · exact .inl hkept
        · exact .inr ⟨exchange, List.mem_cons_self, status, hcall, hwritten⟩
      · exact .inr ⟨later, List.mem_cons_of_mem exchange hmem, status, hcall, hafter⟩

theorem eq_of_no_write (hleads : Leads key log before after)
    (hlog : ∀ exchange ∈ log, ∀ status, exchange.call ≠ .writeStatus key status) :
    after = before := by
  rcases hleads.eq_or_written with heq | ⟨exchange, hmem, status, hcall, _⟩
  · exact heq
  · exact absurd hcall (hlog exchange hmem status)

theorem fetch {server : Server}
    (hleads : Leads key (⟨.fetch key, some (.ok (some server))⟩ :: log) before after) :
    server.status = before ∧ Leads key log before after := by
  obtain ⟨middle, hshifts, hrest⟩ := hleads
  rcases hshifts.moved with rfl | ⟨_, hcall, _⟩
  · exact ⟨hshifts.truthful server rfl, hrest⟩
  · cases hcall

/-- A status that is written unless it was fetched is held in either case. -/
theorem writing {status : ServerStatus}
    (hleads : Leads key (Pass.writing key before status) before after) : after = some status := by
  unfold Pass.writing at hleads
  split at hleads
  · rename_i hsame
    rw [hsame]
    exact hleads
  · obtain ⟨middle, hshifts, rfl⟩ := hleads
    exact hshifts.written status rfl

end Leads

end Exchange

namespace Pass

/-- At the end of a pass over a record that holds what was fetched, that is held, or the status made
of it and of some reads. -/
theorem leads_tend {now : String} {key : Key} {server : Server} {log : List Exchange}
    {outcome : Except PassError Action} {after : Option ServerStatus}
    (htrace : (tend now key server).Trace log outcome)
    (hleads : Exchange.Leads key log server.status after) :
    after = server.status ∨
      ∃ reads : Reads, after = some (reads.status key.name now server.status) := by
  have hkeeps : (tend now key server).Keeps (fun _ _ => True)
      (fun call => ∀ status, call = .writeStatus key status →
        ∃ reads : Reads, status = reads.status key.name now server.status) fun _ => True := by
    apply keeps_tend
    · intro kind object status hcall
      cases hcall
    · intro kind status hcall
      cases hcall
    · intro reads status hcall
      cases hcall
      exact ⟨reads, rfl⟩
  have hlog := hkeeps.guarantee_of_trace htrace fun _ _ _ _ => trivial
  rcases hleads.eq_or_written with heq | ⟨exchange, hmem, status, hcall, hafter⟩
  · exact .inl heq
  · obtain ⟨reads, hstatus⟩ := hlog exchange hmem status hcall
    rw [hstatus] at hafter
    exact .inr ⟨reads, hafter⟩

theorem leads_reconcile {now : String} {key : Key} {log : List Exchange}
    {outcome : Except PassError Action} {held after : Option ServerStatus}
    (htrace : (reconcile now key).Trace log outcome)
    (hleads : Exchange.Leads key log held after) :
    after = held ∨ ∃ reads : Reads, after = some (reads.status key.name now held) := by
  -- Only what comes after the fetch can write, and it starts from the status that was held.
  rcases htrace.bind_cases with ⟨error, _, hfetch⟩ | ⟨found, first, second, rfl, hfetch, hrest⟩
  · have hkeeps : (fetch key).Keeps (fun _ _ => True)
        (fun call => ∀ status, call ≠ .writeStatus key status) fun _ => True :=
      keeps_fetch (fun status hcall => by cases hcall) fun _ _ => trivial
    have hlog := hkeeps.guarantee_of_trace hfetch fun _ _ _ _ => trivial
    exact .inl (hleads.eq_of_no_write hlog)
  · obtain rfl := trace_fetch_ok hfetch
    cases found with
    | none =>
        obtain rfl := Trace.finished_log hrest
        refine .inl (hleads.eq_of_no_write ?_)
        intro exchange hmem status hcall
        rw [List.append_nil, List.mem_singleton] at hmem
        subst hmem
        cases hcall
    | some server =>
        obtain ⟨rfl, hlater⟩ := hleads.fetch
        exact leads_tend hrest hlater

end Pass

end ServerOperator
