import ServerOperator.Cluster.Basic
import ServerOperator.Proofs.Agenda

/-!
# Cancellation

A pass waits for a call by polling it, and before each poll it looks whether it has been cancelled.
So a call counts if a poll before that finds its answer, even when the cancellation comes during that
very poll; a call that is still unanswered by then is abandoned. Time goes by ticks, one for each
poll; a pass that is cancelled at a given tick is compared with the same pass over the same stores
when it is not cancelled.
-/

namespace ServerOperator

/-- Stores that answer every call, while nothing is cancelled. -/
def Backend.answering (answer : (call : Call) → σ → call.Answer × σ) : Backend σ where
  isCancelled _ := false
  perform call state := (some (answer call state).1, (answer call state).2)

theorem Backend.answersAll_answering (answer : (call : Call) → σ → call.Answer × σ) :
    (Backend.answering answer).AnswersAll :=
  ⟨fun _ => rfl, fun _ _ => ⟨_, _, rfl⟩⟩

/-- The state that calls leave when they are made one after another. -/
def Exchange.replay (answer : (call : Call) → σ → call.Answer × σ) (log : List Exchange)
    (state : σ) : σ :=
  log.foldl (fun state exchange => (answer exchange.call state).2) state

/-- How calls go in time: how many polls find a call unanswered before one finds its answer, if any
does; how many ticks go by between that and whatever comes next; and what is left of a call that is
abandoned, be it with or without its effect. -/
structure Pace (σ : Type) where
  latency : Call → σ → Option Nat
  pause : Call → σ → Nat
  remains : Call → σ → σ

/-- Polls a call until its answer is there, which is at the tick `ready`. Before each poll the
cancellation is looked for, and that many polls are left until it is seen. Tells whether the call was
answered, and the tick that comes next. -/
def race : (left : Nat) → (ready : Option Nat) → (tick : Nat) → Bool × Nat
  | 0, _, tick => (false, tick)
  | left + 1, ready, tick =>
      if ready = some tick then (true, tick + 1) else race left ready (tick + 1)

/-- A call as it was started, with the tick of the poll that would find its answer. -/
structure Start where
  call : Call
  tick : Nat
  ready : Option Nat

/-- A poll before the cancellation finds the answer. -/
def Start.InTime (moment : Nat) (start : Start) : Prop :=
  ∃ ready ∈ start.ready, ready < moment

/-- The exchange that a started call led to: it was answered if that came in time. -/
structure Start.LedTo (moment : Nat) (start : Start) (exchange : Exchange) : Prop where
  call : start.call = exchange.call
  before : start.tick < moment
  answered : exchange.answer.isSome = true ↔ start.InTime moment

/-- Stores beside a clock, with all calls that were started. -/
structure Clocked (σ : Type) where
  state : σ
  tick : Nat
  starts : List Start

def Clocked.start (pace : Pace σ) (call : Call) (clocked : Clocked σ) : Start where
  call := call
  tick := clocked.tick
  ready := (pace.latency call clocked.state).map fun polls => clocked.tick + polls

/-- The same stores for a pass that is cancelled at a given tick. -/
def Backend.cancelledAt (answer : (call : Call) → σ → call.Answer × σ) (pace : Pace σ)
    (moment : Nat) : Backend (Clocked σ) where
  isCancelled clocked := moment ≤ clocked.tick
  perform call clocked :=
    let start := clocked.start pace call
    let starts := clocked.starts ++ [start]
    match race (moment - clocked.tick) start.ready clocked.tick with
    | (true, tick) =>
        let (answer, after) := answer call clocked.state
        (some answer, ⟨after, tick + pace.pause call clocked.state, starts⟩)
    | (false, tick) => (none, ⟨pace.remains call clocked.state, tick, starts⟩)

/-! ### One call -/

theorem race_won_iff {left tick : Nat} {ready : Option Nat} (hready : ∀ poll ∈ ready, tick ≤ poll) :
    (race left ready tick).1 = true ↔ ∃ poll ∈ ready, poll < tick + left := by
  induction left generalizing tick with
  | zero =>
      refine ⟨fun hwon => (Bool.false_ne_true hwon).elim, ?_⟩
      rintro ⟨poll, hpoll, hbefore⟩
      have hle := hready poll hpoll
      omega
  | succ left ih =>
      unfold race
      split
      · rename_i hfound
        refine ⟨fun _ => ⟨tick, hfound, ?_⟩, fun _ => rfl⟩
        omega
      · rename_i hpending
        have hlater : ∀ poll ∈ ready, tick + 1 ≤ poll := by
          intro poll hpoll
          have hle := hready poll hpoll
          have hne : tick ≠ poll := by
            rintro rfl
            exact hpending hpoll
          omega
        rw [ih hlater, Nat.add_right_comm tick 1 left, Nat.add_assoc tick left 1]

theorem tick_of_race_lost {left tick : Nat} {ready : Option Nat}
    (hlost : (race left ready tick).1 = false) : (race left ready tick).2 = tick + left := by
  induction left generalizing tick with
  | zero => rfl
  | succ left ih =>
      unfold race at hlost ⊢
      split
      · rename_i hfound
        rw [if_pos hfound] at hlost
        cases hlost
      · rename_i hpending
        rw [if_neg hpending] at hlost
        rw [ih hlost]
        omega

namespace Pass

variable (answer : (call : Call) → σ → call.Answer × σ) (pace : Pace σ) (moment : Nat)

/-- A call goes one of three ways: it is not started any more, it is answered, or it is abandoned. -/
theorem ask_cancelledAt (call : Call) (next : call.Answer → Pass α) (clocked : Clocked σ) :
    let backend := Backend.cancelledAt answer pace moment
    let start := clocked.start pace call
    let starts := clocked.starts ++ [start]
    let pass := ask call next
    (moment ≤ clocked.tick ∧ pass.exchanges backend clocked = [] ∧
        pass.run backend clocked = (.error .cancelled, clocked)) ∨
      (clocked.tick < moment ∧ start.InTime moment ∧ ∃ tick,
        let told := (answer call clocked.state).1
        let after : Clocked σ := ⟨(answer call clocked.state).2, tick, starts⟩
        pass.exchanges backend clocked = ⟨call, some told⟩ :: (next told).exchanges backend after ∧
          pass.run backend clocked = (next told).run backend after) ∨
      (clocked.tick < moment ∧ ¬start.InTime moment ∧ ∃ tick, moment ≤ tick ∧
        pass.exchanges backend clocked = [⟨call, none⟩] ∧
        pass.run backend clocked =
          (.error .cancelled, ⟨pace.remains call clocked.state, tick, starts⟩)) := by
  intro backend start starts pass
  by_cases hcancelled : moment ≤ clocked.tick
  · exact .inl ⟨hcancelled, ask_stopped (decide_eq_true hcancelled)⟩
  · have hrunning : backend.isCancelled clocked = false := decide_eq_false hcancelled
    have hbefore : clocked.tick < moment := Nat.lt_of_not_le hcancelled
    have hmoment : clocked.tick + (moment - clocked.tick) = moment :=
      Nat.add_sub_cancel' (Nat.le_of_lt hbefore)
    have hready : ∀ poll ∈ start.ready, clocked.tick ≤ poll := by
      intro poll hpoll
      obtain ⟨polls, _, rfl⟩ := Option.map_eq_some_iff.mp hpoll
      exact Nat.le_add_right clocked.tick polls
    have hwon : (race (moment - clocked.tick) start.ready clocked.tick).1 = true ↔
        start.InTime moment := by
      rw [race_won_iff hready, hmoment]
      rfl
    have hperform : backend.perform call clocked =
        match race (moment - clocked.tick) start.ready clocked.tick with
        | (true, tick) => (some (answer call clocked.state).1,
            ⟨(answer call clocked.state).2, tick + pace.pause call clocked.state, starts⟩)
        | (false, tick) => (none, ⟨pace.remains call clocked.state, tick, starts⟩) := rfl
    right
    rcases hrace : race (moment - clocked.tick) start.ready clocked.tick with ⟨_ | _, tick⟩
    · have hlate : ¬start.InTime moment := by
        rw [← hwon, hrace]
        exact Bool.false_ne_true
      have hseen := tick_of_race_lost (congrArg Prod.fst hrace)
      rw [hrace, hmoment] at hseen
      rw [hrace] at hperform
      exact .inr ⟨hbefore, hlate, tick, Nat.le_of_eq hseen.symm,
        ask_abandoned hrunning hperform⟩
    · have hintime : start.InTime moment := by
        rw [← hwon, hrace]
      rw [hrace] at hperform
      exact .inl ⟨hbefore, hintime, _, ask_answered hrunning hperform⟩

/-- Every call is started before the cancellation, and is answered if that comes before it too. -/
theorem starts_cancelledAt (pass : Pass α) (clocked : Clocked σ) :
    let backend := Backend.cancelledAt answer pace moment
    ∃ started, (pass.run backend clocked).2.starts = clocked.starts ++ started ∧
      List.Forall₂ (Start.LedTo moment) started (pass.exchanges backend clocked) := by
  intro backend
  induction pass generalizing clocked with
  | finished value => exact ⟨[], (List.append_nil _).symm, .nil⟩
  | failed error => exact ⟨[], (List.append_nil _).symm, .nil⟩
  | ask call next ih =>
      rcases ask_cancelledAt answer pace moment call next clocked with
        ⟨_, hlog, hrun⟩ | ⟨hbefore, hintime, tick, hlog, hrun⟩ | ⟨hbefore, hlate, tick, _, hlog, hrun⟩
      · rw [hlog, hrun]
        exact ⟨[], (List.append_nil _).symm, .nil⟩
      · rw [hlog, hrun]
        obtain ⟨started, hstarts, hled⟩ := ih (answer call clocked.state).1
          ⟨(answer call clocked.state).2, tick, clocked.starts ++ [clocked.start pace call]⟩
        refine ⟨clocked.start pace call :: started, ?_, .cons ?_ hled⟩
        · rw [hstarts, List.append_assoc]
          rfl
        · exact ⟨rfl, hbefore, fun _ => hintime, fun _ => rfl⟩
      · rw [hlog, hrun]
        refine ⟨[clocked.start pace call], rfl, .cons ⟨rfl, hbefore, ?_, ?_⟩ .nil⟩
        · intro hanswered
          cases hanswered
        · intro hintime
          exact absurd hintime hlate

/-- A run that is cancelled completes the first of the calls that the pass makes otherwise. If that
is all of them, it ends as the pass does otherwise; if not, it may have abandoned the next one. -/
theorem completed_cancelledAt (pass : Pass α) (clocked : Clocked σ) :
    let stores := Backend.answering answer
    let backend := Backend.cancelledAt answer pace moment
    let log := pass.exchanges backend clocked
    let ended := pass.run backend clocked
    ∃ completed needed, pass.exchanges stores clocked.state = completed ++ needed ∧
      ((log = completed ∧ ended.2.state = Exchange.replay answer completed clocked.state ∧
          (needed = [] → ended.1 = (pass.run stores clocked.state).1) ∧
          (needed ≠ [] → ended.1 = .error .cancelled)) ∨
        ∃ abandoned later, needed = abandoned :: later ∧
          log = completed ++ [⟨abandoned.call, none⟩] ∧ ended.1 = .error .cancelled ∧
          ended.2.state =
            pace.remains abandoned.call (Exchange.replay answer completed clocked.state)) := by
  intro stores backend log ended
  induction pass generalizing clocked with
  | finished value => exact ⟨[], [], rfl, .inl ⟨rfl, rfl, fun _ => rfl, fun hne => absurd rfl hne⟩⟩
  | failed error => exact ⟨[], [], rfl, .inl ⟨rfl, rfl, fun _ => rfl, fun hne => absurd rfl hne⟩⟩
  | ask call next ih =>
      let told := (answer call clocked.state).1
      let settled := (answer call clocked.state).2
      let first : Exchange := ⟨call, some told⟩
      have hcalls : (ask call next).exchanges stores clocked.state =
          first :: (next told).exchanges stores settled := rfl
      rcases ask_cancelledAt answer pace moment call next clocked with
        ⟨_, hlog, hrun⟩ | ⟨_, _, tick, hlog, hrun⟩ | ⟨_, _, tick, _, hlog, hrun⟩
      · refine ⟨[], _, hcalls, .inl ⟨hlog, ?_, ?_, ?_⟩⟩
        · exact congrArg (fun ended => ended.2.state) hrun
        · intro hnone
          cases hnone
        · intro _
          exact congrArg Prod.fst hrun
      · -- The answer is the one that is given otherwise too, so the rest of the pass is the same.
        let after : Clocked σ := ⟨settled, tick, clocked.starts ++ [clocked.start pace call]⟩
        obtain ⟨completed, needed, hsplit, hcut⟩ := ih told after
        refine ⟨first :: completed, needed, ?_, ?_⟩
        · rw [hcalls, hsplit]
          rfl
        · have hended : ended = (next told).run backend after := hrun
          have hlogged : log = first :: (next told).exchanges backend after := hlog
          rw [hended, hlogged]
          rcases hcut with ⟨hcompleted, hstate, hresult⟩ | ⟨abandoned, later, hneeded, hcompleted, hresult⟩
          · exact .inl ⟨congrArg (first :: ·) hcompleted, hstate, hresult⟩
          · exact .inr ⟨abandoned, later, hneeded, congrArg (first :: ·) hcompleted, hresult⟩
      · refine ⟨[], _, hcalls, .inr ⟨first, _, rfl, hlog, ?_, ?_⟩⟩
        · exact congrArg Prod.fst hrun
        · exact congrArg (fun ended => ended.2.state) hrun

/-- A pass that does not cancel itself is cancelled only once the time has come. -/
theorem le_tick_of_cancelled {pass : Pass α} (hpass : pass.FailsOnly (fun _ _ => True) (· ≠ .cancelled))
    (clocked : Clocked σ)
    (hended : (pass.run (.cancelledAt answer pace moment) clocked).1 = .error .cancelled) :
    moment ≤ (pass.run (.cancelledAt answer pace moment) clocked).2.tick := by
  induction pass generalizing clocked with
  | finished value => cases hended
  | failed error =>
      cases hended
      exact absurd rfl hpass
  | ask call next ih =>
      rcases ask_cancelledAt answer pace moment call next clocked with
        ⟨hcancelled, _, hrun⟩ | ⟨_, _, tick, _, hrun⟩ | ⟨_, _, tick, hcancelled, _, hrun⟩
      · rw [hrun]
        exact hcancelled
      · rw [hrun] at hended ⊢
        exact ih _ (hpass _ trivial) _ hended
      · rw [hrun]
        exact hcancelled

theorem replay_exchanges (pass : Pass α) (state : σ) :
    Exchange.replay answer (pass.exchanges (.answering answer) state) state =
      (pass.run (.answering answer) state).2 := by
  induction pass generalizing state with
  | finished value => rfl
  | failed error => rfl
  | ask call next ih => exact ih _ _

/-- A cancellation that does not keep a pass from ending well changes nothing. -/
theorem run_answering_of_cancelledAt {pass : Pass α} {clocked : Clocked σ} {value : α}
    (hok : (pass.run (.cancelledAt answer pace moment) clocked).1 = .ok value) :
    pass.run (.answering answer) clocked.state =
      (.ok value, (pass.run (.cancelledAt answer pace moment) clocked).2.state) := by
  obtain ⟨completed, needed, hcalls, hcut⟩ := completed_cancelledAt answer pace moment pass clocked
  rcases hcut with ⟨_, hstate, hthrough, hshort⟩ | ⟨_, _, _, _, hcancelled, _⟩
  · have hneeded : needed = [] := by
      by_contra hmore
      cases (hshort hmore).symm.trans hok
    have hreplay := replay_exchanges answer pass clocked.state
    rw [hcalls, hneeded, List.append_nil] at hreplay
    rw [hstate, hreplay, ← hok, hthrough hneeded]
  · cases hcancelled.symm.trans hok

/-- Cancellation at any moment is clean. Against the same pass over the same stores when it is not
cancelled: every call was started before the cancellation, and it was answered exactly if a poll
before the cancellation finds its answer. The calls that were answered are the first ones that the
pass makes otherwise, with the same answers and effects. If none was abandoned, the pass ends as
cancelled exactly if it needed another call, and else as it ends otherwise; if one was, it is the next
call, and the pass ends as cancelled. -/
theorem reconcile_cancelledAt (answer : (call : Call) → σ → call.Answer × σ) (pace : Pace σ)
    (moment tick : Nat) (now : String) (key : Key) (state : σ) :
    let calls := (reconcile now key).exchanges (.answering answer) state
    let result := ((reconcile now key).run (.answering answer) state).1
    let log := (reconcile now key).exchanges (.cancelledAt answer pace moment) ⟨state, tick, []⟩
    let ended := (reconcile now key).run (.cancelledAt answer pace moment) ⟨state, tick, []⟩
    List.Forall₂ (Start.LedTo moment) ended.2.starts log ∧
      (∃ completed needed, calls = completed ++ needed ∧
        ((log = completed ∧ ended.2.state = Exchange.replay answer completed state ∧
            (ended.1 = .error .cancelled ↔ needed ≠ []) ∧ (needed = [] → ended.1 = result)) ∨
          ∃ abandoned later, needed = abandoned :: later ∧
            log = completed ++ [⟨abandoned.call, none⟩] ∧ ended.1 = .error .cancelled ∧
            ended.2.state = pace.remains abandoned.call (Exchange.replay answer completed state))) ∧
      (ended.1 = .error .cancelled → moment ≤ ended.2.tick) := by
  intro calls result log ended
  have hpass := reconcile_failsOnly_ne_cancelled now key
  have huncancelled : result ≠ .error .cancelled :=
    (complete_iff_ne_cancelled (trace_exchanges (.answering answer) _ state)).mp
      (complete_exchanges (Backend.answersAll_answering answer) _ state)
  refine ⟨?_, ?_, ?_⟩
  · obtain ⟨started, hstarts, hled⟩ :=
      starts_cancelledAt answer pace moment (reconcile now key) ⟨state, tick, []⟩
    rw [hstarts]
    exact hled
  · obtain ⟨completed, needed, hcalls, hcut⟩ :=
      completed_cancelledAt answer pace moment (reconcile now key) ⟨state, tick, []⟩
    refine ⟨completed, needed, hcalls, ?_⟩
    rcases hcut with ⟨hlog, hstate, hthrough, hshort⟩ | habandoned
    · refine .inl ⟨hlog, hstate, ⟨?_, hshort⟩, hthrough⟩
      rintro hcancelled hnone
      exact huncancelled ((hthrough hnone).symm.trans hcancelled)
    · exact .inr habandoned
  · exact le_tick_of_cancelled answer pace moment hpass ⟨state, tick, []⟩

/-- Every call is answered by its first poll, and the cancellation comes during the third: the service
is created, and the route is not. -/
example :
    let key : Key := ⟨"default", "web"⟩
    let server : Server :=
      ⟨{ Metadata.empty with name := some "web", uid := some "17" }, default, none⟩
    let cluster : Cluster := ⟨⟨[(key, server)]⟩, .empty, .empty, .empty⟩
    let pace : Pace Cluster := ⟨fun _ _ => some 0, fun _ _ => 0, fun _ cluster => cluster⟩
    let backend := Backend.cancelledAt (fun call cluster => cluster.answer call) pace 3
    let ended := (reconcile "t1" key).run backend ⟨cluster, 0, []⟩
    ended.1 = .error .cancelled ∧ ended.2.state.services.contains key = true ∧
      ended.2.state.routes.contains key = false := by
  decide +kernel

end Pass

end ServerOperator
