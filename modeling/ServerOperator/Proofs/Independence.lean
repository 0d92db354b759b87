import ServerOperator.Proofs.Account

/-!
# Passes for different keys

All calls of a pass are for its own key, those included whose key is taken from the object that they
create. A call answers by what the stores hold under its key and changes nothing elsewhere. So passes
for different keys never meet: in whatever order they take turns, each of them sees, does and leaves
what it would if it were alone.
-/

namespace ServerOperator

namespace Cluster

/-- All stores hold the same under a key. -/
def AgreeAt (key : Key) (left right : Cluster) : Prop :=
  ∀ kind, (left.store kind).find? key = (right.store kind).find? key

variable {key : Key} {left right : Cluster}

theorem AgreeAt.refl (key : Key) (cluster : Cluster) : AgreeAt key cluster cluster :=
  fun _ => rfl

theorem AgreeAt.trans {middle : Cluster} (hfirst : AgreeAt key left middle)
    (hsecond : AgreeAt key middle right) : AgreeAt key left right :=
  fun kind => (hfirst kind).trans (hsecond kind)

theorem AgreeAt.insert (hagree : AgreeAt key left right) (kind : Kind) (object : kind.Object) :
    AgreeAt key (left.insert kind key object) (right.insert kind key object) := by
  intro other
  by_cases hkind : other = kind
  · subst hkind
    simp only [Cluster.insert, store_withStore_self, Store.find?_insert_self]
  · simp only [Cluster.insert, store_withStore_of_ne _ _ hkind]
    exact hagree other

theorem agreeAt_insert_of_ne (cluster : Cluster) {place : Key} (hne : key ≠ place) (kind : Kind)
    (object : kind.Object) : AgreeAt key (cluster.insert kind place object) cluster := by
  intro other
  by_cases hkind : other = kind
  · subst hkind
    rw [Cluster.insert, store_withStore_self, Store.find?_insert_of_ne _ _ hne]
  · rw [Cluster.insert, store_withStore_of_ne _ _ hkind]

/-- A call is answered by what is held under its key. -/
theorem AgreeAt.answer {call : Call} (hagree : AgreeAt call.key left right) :
    (left.answer call).1 = (right.answer call).1 ∧
      AgreeAt call.key (left.answer call).2 (right.answer call).2 := by
  cases call with
  | fetch key => exact ⟨congrArg Except.ok (hagree .server), hagree⟩
  | get kind key => exact ⟨congrArg Except.ok (hagree (.child kind)), hagree⟩
  | create kind object =>
      have hfound : (left.store (.child kind)).contains (kind.key object) =
          (right.store (.child kind)).contains (kind.key object) :=
        congrArg Option.isSome (hagree (.child kind))
      rw [answer_create, answer_create, hfound]
      split
      · exact ⟨rfl, hagree⟩
      · exact ⟨rfl, hagree.insert (.child kind) object⟩
  | writeStatus key status =>
      have hfound : left.servers.find? key = right.servers.find? key := hagree .server
      simp only [Cluster.answer, hfound]
      split
      · exact ⟨rfl, hagree.insert .server _⟩
      · exact ⟨rfl, hagree⟩

/-- A call leaves alone what is held under another key. -/
theorem agreeAt_answer_of_ne (cluster : Cluster) {call : Call} (hne : key ≠ call.key) :
    AgreeAt key (cluster.answer call).2 cluster := by
  cases call with
  | fetch place => exact .refl key cluster
  | get kind place => exact .refl key cluster
  | create kind object =>
      rw [answer_create]
      split
      · exact .refl key cluster
      · exact cluster.agreeAt_insert_of_ne hne (.child kind) object
  | writeStatus place status =>
      simp only [Cluster.answer]
      split
      · exact cluster.agreeAt_insert_of_ne hne .server _
      · exact .refl key cluster

end Cluster

namespace Fate

variable (fate : Fate) {call : Call} {left right : Cluster}

theorem agree_meet (hagree : left.AgreeAt call.key right) :
    (fate.meet left call).1 = (fate.meet right call).1 ∧
      (fate.meet left call).2.AgreeAt call.key (fate.meet right call).2 := by
  obtain ⟨hanswer, hafter⟩ := hagree.answer
  cases fate with
  | answered => exact ⟨congrArg some hanswer, hafter⟩
  | refused error => exact ⟨rfl, hagree⟩
  | lost error => exact ⟨rfl, hafter⟩
  | cancelled landed =>
      cases landed with
      | true => exact ⟨rfl, hafter⟩
      | false => exact ⟨rfl, hagree⟩

theorem agreeAt_meet_of_ne (cluster : Cluster) {key : Key} (hne : key ≠ call.key) :
    (fate.meet cluster call).2.AgreeAt key cluster := by
  have hafter := cluster.agreeAt_answer_of_ne hne
  cases fate with
  | answered => exact hafter
  | refused error => exact .refl key cluster
  | lost error => exact hafter
  | cancelled landed =>
      cases landed with
      | true => exact hafter
      | false => exact .refl key cluster

end Fate

/-! ### A pass by itself -/

/-- A cluster for one pass alone, whose calls meet the given fates in turn. -/
def Backend.fated : Backend (List Fate × Cluster) where
  isCancelled _ := false
  perform call state :=
    let (answer, after) := (state.1.headD .answered).meet state.2 call
    (answer, state.1.tail, after)

namespace Pass

/-- How a pass goes by itself: all that it exchanges, how it ends, and what it leaves. Fates that it
does not come to do not count. -/
structure Goes (pass : Pass α) (fates : List Fate) (before : Cluster) (log : List Exchange)
    (outcome : Except PassError α) (after : Cluster) : Prop where
  exchanges : pass.exchanges .fated (fates, before) = log
  outcome : (pass.run .fated (fates, before)).1 = outcome
  leaves : (pass.run .fated (fates, before)).2.2 = after

theorem goes_ask_iff {call : Call} {next : call.Answer → Pass α} {fates : List Fate}
    {before after : Cluster} {log : List Exchange} {outcome : Except PassError α} :
    let met := (fates.headD .answered).meet before call
    (ask call next).Goes fates before log outcome after ↔
      ∃ later, log = ⟨call, met.1⟩ :: later ∧
        (met.1.elim (failed .cancelled) next).Goes fates.tail met.2 later outcome after := by
  intro met
  have hperform : Backend.fated.perform call (fates, before) = (met.1, fates.tail, met.2) := rfl
  have hturn : (ask call next).exchanges .fated (fates, before) =
        ⟨call, met.1⟩ :: (met.1.elim (failed .cancelled) next).exchanges .fated
          (fates.tail, met.2) ∧
      (ask call next).run .fated (fates, before) =
        (met.1.elim (failed .cancelled) next).run .fated (fates.tail, met.2) := by
    cases hanswer : met.1 with
    | none =>
        rw [hanswer] at hperform
        exact ask_abandoned rfl hperform
    | some answer =>
        rw [hanswer] at hperform
        exact ask_answered rfl hperform
  constructor
  · rintro ⟨rfl, rfl, rfl⟩
    refine ⟨_, hturn.1, rfl, ?_, ?_⟩
    · rw [hturn.2]
    · rw [hturn.2]
  · rintro ⟨_, rfl, rfl, rfl, rfl⟩
    refine ⟨hturn.1, ?_, ?_⟩
    · rw [hturn.2]
    · rw [hturn.2]

theorem goes_ended (outcome : Except PassError Action) (cluster : Cluster) :
    (Interleaved.ended outcome).Goes [] cluster [] outcome cluster := by
  cases outcome with
  | ok action => exact ⟨rfl, rfl, rfl⟩
  | error error => exact ⟨rfl, rfl, rfl⟩

/-- A pass goes as it does from where its first turn leaves it. -/
theorem Goes.turn {pass : Pass α} {fate : Fate} {fates : List Fate} {before after : Cluster}
    {log : List Exchange} {outcome : Except PassError α}
    (hgoes : (pass.proceed fate before).1.Goes fates (pass.proceed fate before).2 log outcome after) :
    pass.Goes (fate :: fates) before (pass.turn fate before ++ log) outcome after := by
  cases pass with
  | finished value => exact ⟨hgoes.exchanges, hgoes.outcome, hgoes.leaves⟩
  | failed error => exact ⟨hgoes.exchanges, hgoes.outcome, hgoes.leaves⟩
  | ask call next =>
      rw [proceed_ask] at hgoes
      exact goes_ask_iff.mpr ⟨log, rfl, hgoes⟩

/-- All calls of a pass are for one key. -/
def StaysAt (key : Key) (pass : Pass α) : Prop :=
  pass.Keeps (fun _ _ => True) (fun call => call.key = key) fun _ => True

theorem Follows.staysAt {post : α → List (String × Key) → Prop} {labels : List (String × Key)}
    {pass : Pass α} (hpass : pass.Follows post labels) {key : Key}
    (hlabels : ∀ label ∈ labels, label.2 = key) : pass.StaysAt key := by
  induction pass generalizing labels with
  | finished value => trivial
  | failed error => trivial
  | ask call next ih =>
      obtain ⟨later, rfl, hnext⟩ := hpass
      rw [List.forall_mem_cons] at hlabels
      exact ⟨hlabels.1, fun answer _ => ih answer (hnext answer) hlabels.2⟩

theorem staysAt_reconcile (now : String) (key : Key) : (reconcile now key).StaysAt key := by
  refine (follows_reconcile key now).staysAt ?_
  intro label hlabel
  simp only [agenda, List.mem_append, List.mem_singleton, List.mem_map] at hlabel
  rcases hlabel with ((rfl | ⟨kind, _, rfl⟩) | ⟨kind, _, rfl⟩) | rfl <;> rfl

namespace StaysAt

variable {key : Key} {pass : Pass α} {left right : Cluster}

theorem proceed (hstays : pass.StaysAt key) (fate : Fate) (cluster : Cluster) :
    (pass.proceed fate cluster).1.StaysAt key := by
  cases pass with
  | finished value => trivial
  | failed error => trivial
  | ask call next =>
      rw [proceed_ask]
      cases (fate.meet cluster call).1 with
      | none => trivial
      | some answer => exact hstays.2 answer trivial

theorem agreeAt_proceed_of_ne (hstays : pass.StaysAt key) {other : Key} (hne : other ≠ key)
    (fate : Fate) (cluster : Cluster) : (pass.proceed fate cluster).2.AgreeAt other cluster := by
  cases pass with
  | finished value => exact .refl other cluster
  | failed error => exact .refl other cluster
  | ask call next =>
      rw [proceed_ask]
      exact fate.agreeAt_meet_of_ne cluster (hstays.1 ▸ hne)

/-- What is held under other keys makes no difference to how a pass goes. -/
theorem goes (hstays : pass.StaysAt key) (hagree : left.AgreeAt key right) {fates : List Fate}
    {log : List Exchange} {outcome : Except PassError α} {after : Cluster}
    (hgoes : pass.Goes fates left log outcome after) :
    ∃ other, pass.Goes fates right log outcome other ∧ after.AgreeAt key other := by
  induction pass generalizing left right fates log with
  | finished value =>
      obtain ⟨hlog, houtcome, rfl⟩ := hgoes
      exact ⟨right, ⟨hlog, houtcome, rfl⟩, hagree⟩
  | failed error =>
      obtain ⟨hlog, houtcome, rfl⟩ := hgoes
      exact ⟨right, ⟨hlog, houtcome, rfl⟩, hagree⟩
  | ask call next ih =>
      obtain ⟨rfl, hnext⟩ := hstays
      obtain ⟨later, rfl, hlater⟩ := goes_ask_iff.mp hgoes
      obtain ⟨hanswer, hafter⟩ := (fates.headD .answered).agree_meet hagree
      rw [hanswer] at hlater ⊢
      suffices hrest : ∃ other, (((fates.headD .answered).meet right call).1.elim
          (failed .cancelled) next).Goes fates.tail ((fates.headD .answered).meet right call).2
            later outcome other ∧ after.AgreeAt call.key other by
        obtain ⟨other, hother, hleaves⟩ := hrest
        exact ⟨other, goes_ask_iff.mpr ⟨later, rfl, hother⟩, hleaves⟩
      cases htold : ((fates.headD .answered).meet right call).1 with
      | none =>
          rw [htold] at hlater
          obtain ⟨hlog, houtcome, rfl⟩ := hlater
          exact ⟨_, ⟨hlog, houtcome, rfl⟩, hafter⟩
      | some answer =>
          rw [htold] at hlater
          exact ih answer (hnext answer trivial) hafter hlater

end StaysAt

end Pass

/-! ### Passes side by side -/

/-- The fates that the calls of one pass meet along the steps. -/
def Step.fates (index : Nat) (steps : List Step) : List Fate :=
  steps.filterMap (Step.fateOf? index)

theorem Step.eq_call_of_isCall {step : Step} (hcall : step.isCall = true) :
    ∃ turn fate, step = .call turn fate := by
  cases step with
  | call turn fate => exact ⟨turn, fate, rfl⟩
  | _ => cases hcall

theorem Step.fates_call (index : Nat) (fate : Fate) (steps : List Step) :
    Step.fates index (.call index fate :: steps) = fate :: Step.fates index steps :=
  List.filterMap_cons_some (if_pos rfl)

theorem Step.fates_of_not_call {index : Nat} {step : Step} (hcall : step.isCallOf index = false)
    (steps : List Step) : Step.fates index (step :: steps) = Step.fates index steps :=
  List.filterMap_cons_none (Step.fateOf?_eq_none hcall)

theorem Pass.Follows.proceed {pass : Pass α} {labels : List (String × Key)}
    (hpass : pass.Follows (fun _ _ => True) labels) (fate : Fate) (cluster : Cluster) :
    (pass.proceed fate cluster).1.Follows (fun _ _ => True) labels.tail := by
  cases pass with
  | finished value => trivial
  | failed error => trivial
  | ask call next =>
      obtain ⟨later, rfl, hnext⟩ := hpass
      rw [proceed_ask]
      cases (fate.meet cluster call).1 with
      | none => trivial
      | some answer => exact hnext answer

theorem Pass.Follows.ended_of_nil {pass : Pass Action}
    (hpass : pass.Follows (fun _ _ => True) []) : ∃ outcome, pass = Interleaved.ended outcome := by
  cases pass with
  | finished action => exact ⟨.ok action, rfl⟩
  | failed error => exact ⟨.error error, rfl⟩
  | ask call next =>
      obtain ⟨later, hnil, _⟩ := hpass
      cases hnil

/-- A pass that is to run, with the clock reading that it takes and the fates of all calls that it
may come to make. -/
structure Task where
  now : String
  key : Key
  fates : List Fate
  enough : (Pass.agenda key).length ≤ fates.length

def Task.pass (task : Task) : Pass Action :=
  Pass.reconcile task.now task.key

/-- The calls of some passes, one after another in any order. -/
structure Step.Interleave (tasks : List Task) (steps : List Step) : Prop where
  calls : ∀ step ∈ steps, step.isCall = true
  fates : ∀ index task, tasks[index]? = some task → Step.fates index steps = task.fates

namespace Interleaved

/-- Each pass keeps to its own key. -/
def StayApart (keys : List Key) (state : Interleaved) : Prop :=
  ∀ (index : Nat) (pass : Pass Action), state.passes[index]? = some pass →
    ∃ key, keys[index]? = some key ∧ pass.StaysAt key

variable {keys : List Key} {state : Interleaved}

theorem StayApart.call (hapart : state.StayApart keys) (turn : Nat) (fate : Fate) :
    (state.step (.call turn fate)).StayApart keys := by
  cases hpass : state.passes[turn]? with
  | none => rwa [step_call_of_none hpass]
  | some pass =>
      intro index later hlater
      by_cases hindex : turn = index
      · subst hindex
        cases (getElem?_passes_step_call hpass fate).symm.trans hlater
        obtain ⟨key, hkey, hstays⟩ := hapart turn pass hpass
        exact ⟨key, hkey, hstays.proceed fate state.cluster⟩
      · rw [step_call hpass, List.getElem?_set_ne hindex] at hlater
        exact hapart index later hlater

/-- A turn of one pass leaves alone what is held under the keys of the others. -/
theorem StayApart.agreeAt_call (hapart : state.StayApart keys) {turn : Nat} {key : Key}
    (hkey : keys[turn]? ≠ some key) (fate : Fate) :
    (state.step (.call turn fate)).cluster.AgreeAt key state.cluster := by
  cases hpass : state.passes[turn]? with
  | none =>
      rw [step_call_of_none hpass]
      exact .refl key state.cluster
  | some pass =>
      obtain ⟨own, hown, hstays⟩ := hapart turn pass hpass
      have hne : key ≠ own := by
        rintro rfl
        exact hkey hown
      rw [step_call hpass]
      exact hstays.agreeAt_proceed_of_ne hne fate state.cluster

theorem StayApart.agreeAt_run (hapart : state.StayApart keys) {key : Key} (hkey : key ∉ keys)
    {steps : List Step} (hcalls : ∀ step ∈ steps, step.isCall = true) :
    (state.run steps).cluster.AgreeAt key state.cluster := by
  induction steps generalizing state with
  | nil => exact .refl key state.cluster
  | cons step rest ih =>
      rw [List.forall_mem_cons] at hcalls
      obtain ⟨turn, fate, rfl⟩ := Step.eq_call_of_isCall hcalls.1
      have hother : keys[turn]? ≠ some key := fun hturn => hkey (List.mem_of_getElem? hturn)
      exact (ih (hapart.call turn fate) hcalls.2).trans (hapart.agreeAt_call hother fate)

/-- What is left of a pass goes on as the pass does by itself from where it started. -/
theorem StayApart.goes_run (hapart : state.StayApart keys) (hdistinct : keys.Nodup) {index : Nat}
    {key : Key} (hkey : keys[index]? = some key) {pass : Pass Action}
    (hpass : state.passes[index]? = some pass) {labels : List (String × Key)}
    (hfollows : pass.Follows (fun _ _ => True) labels) {steps : List Step}
    (hcalls : ∀ step ∈ steps, step.isCall = true) :
    ∃ left, (state.run steps).passes[index]? = some left ∧
      left.Follows (fun _ _ => True) (labels.drop (Step.fates index steps).length) ∧
      ∀ log outcome after, left.Goes [] (state.run steps).cluster log outcome after →
        ∃ other, pass.Goes (Step.fates index steps) state.cluster
            (state.exchanges index steps ++ log) outcome other ∧ after.AgreeAt key other := by
  induction steps generalizing state pass labels with
  | nil => exact ⟨pass, hpass, hfollows, fun _ _ after hgoes => ⟨after, hgoes, .refl key after⟩⟩
  | cons step rest ih =>
      rw [List.forall_mem_cons] at hcalls
      obtain ⟨turn, fate, rfl⟩ := Step.eq_call_of_isCall hcalls.1
      by_cases hturn : turn = index
      · subst hturn
        obtain ⟨left, hleft, hlabels, hgo⟩ := ih (hapart.call turn fate)
          (getElem?_passes_step_call hpass fate) (hfollows.proceed fate state.cluster) hcalls.2
        rw [Step.fates_call, exchanges_call hpass]
        refine ⟨left, hleft, ?_, ?_⟩
        · rwa [List.drop_tail] at hlabels
        · intro log outcome after hgoes
          obtain ⟨other, hother, hagree⟩ := hgo log outcome after hgoes
          have hturn : (state.step (.call turn fate)).cluster =
              (pass.proceed fate state.cluster).2 := by rw [step_call hpass]
          rw [hturn] at hother
          rw [List.append_assoc]
          exact ⟨other, hother.turn, hagree⟩
      · have hcall : (Step.call turn fate).isCallOf index = false := decide_eq_false hturn
        have hother : keys[turn]? ≠ some key := by
          intro hsame
          obtain ⟨hlength, _⟩ := List.getElem?_eq_some_iff.mp hsame
          exact hturn ((List.getElem?_inj hlength hdistinct).mp (hsame.trans hkey.symm))
        obtain ⟨own, hown, hstays⟩ := hapart index pass hpass
        obtain rfl : own = key := Option.some.inj (hown.symm.trans hkey)
        obtain ⟨left, hleft, hlabels, hgo⟩ := ih (hapart.call turn fate)
          (getElem?_passes_step hcall hpass) hfollows hcalls.2
        rw [Step.fates_of_not_call hcall, exchanges_of_not_call hcall]
        refine ⟨left, hleft, hlabels, ?_⟩
        intro log outcome after hgoes
        obtain ⟨met, hmet, hagree⟩ := hgo log outcome after hgoes
        obtain ⟨alone, halone, hsame⟩ := hstays.goes (hapart.agreeAt_call hother fate) hmet
        exact ⟨alone, halone, hagree.trans hsame⟩

theorem stayApart_tasks (cluster : Cluster) (tasks : List Task) :
    (⟨cluster, tasks.map Task.pass⟩ : Interleaved).StayApart (tasks.map Task.key) := by
  intro index pass hpass
  change (tasks.map Task.pass)[index]? = some pass at hpass
  rw [List.getElem?_map] at hpass
  obtain ⟨task, htask, rfl⟩ := Option.map_eq_some_iff.mp hpass
  refine ⟨task.key, ?_, Pass.staysAt_reconcile task.now task.key⟩
  rw [List.getElem?_map, htask]
  rfl

/-- Passes for distinct keys do not interfere. In whatever order they take turns, each ends as it does
alone from the initial cluster, has made the same calls and been given the same answers, and has left
the same under its key; and what is held under all other keys is as it was. -/
theorem independent_of_distinct_keys (cluster : Cluster) (tasks : List Task)
    (hdistinct : (tasks.map Task.key).Nodup) (steps : List Step)
    (hsteps : Step.Interleave tasks steps) :
    let start : Interleaved := ⟨cluster, tasks.map Task.pass⟩
    let state := start.run steps
    (∀ index task, tasks[index]? = some task →
      let alone := task.pass.run .fated (task.fates, cluster)
      state.passes[index]? = some (ended alone.1) ∧
        start.exchanges index steps = task.pass.exchanges .fated (task.fates, cluster) ∧
        state.cluster.AgreeAt task.key alone.2.2) ∧
      ∀ key ∉ tasks.map Task.key, state.cluster.AgreeAt key cluster := by
  intro start state
  have hapart : start.StayApart (tasks.map Task.key) := stayApart_tasks cluster tasks
  refine ⟨?_, fun key hkey => hapart.agreeAt_run hkey hsteps.calls⟩
  intro index task htask alone
  have hkey : (tasks.map Task.key)[index]? = some task.key := by
    rw [List.getElem?_map, htask]
    rfl
  have hpass : start.passes[index]? = some task.pass := by
    change (tasks.map Task.pass)[index]? = some task.pass
    rw [List.getElem?_map, htask]
    rfl
  obtain ⟨left, hleft, hlabels, hgo⟩ := hapart.goes_run hdistinct hkey hpass
    (Pass.follows_reconcile task.key task.now) hsteps.calls
  rw [hsteps.fates index task htask] at hlabels hgo
  -- By then every call that the pass may make has been made.
  rw [List.drop_eq_nil_of_le task.enough] at hlabels
  obtain ⟨outcome, rfl⟩ := hlabels.ended_of_nil
  obtain ⟨other, ⟨hlog, houtcome, rfl⟩, hagree⟩ :=
    hgo [] outcome state.cluster (Pass.goes_ended outcome state.cluster)
  refine ⟨?_, ?_, hagree⟩
  · rw [houtcome]
    exact hleft
  · rw [hlog, List.append_nil]

/-- One of two passes loses the answer to a creation, and the other is cancelled over a creation that
has its effect, while they take turns. -/
theorem independent_of_distinct_keys_alternating :
    let web : Key := ⟨"default", "web"⟩
    let db : Key := ⟨"default", "db"⟩
    let named (name : String) : Server :=
      ⟨{ Metadata.empty with name := some name, uid := some "17" }, default, none⟩
    let cluster : Cluster := ⟨⟨[(web, named "web"), (db, named "db")]⟩, .empty, .empty, .empty⟩
    let error := Cluster.refusal "timed out" "Timeout" 504
    let first : List Fate := [.answered, .lost error] ++ List.replicate 6 .answered
    let second : List Fate := [.answered, .answered, .cancelled true] ++ List.replicate 5 .answered
    let steps := (first.zip second).flatMap fun fates => [.call 0 fates.1, .call 1 fates.2]
    let state := (⟨cluster, [Pass.reconcile "t1" web, Pass.reconcile "t2" db]⟩ : Interleaved).run steps
    state.passes[0]? = some (.failed (.create .deployment web error)) ∧
      state.passes[1]? = some (.failed .cancelled) ∧
      ∀ kind, (state.cluster.store (.child kind)).contains web = (kind == .deployment) ∧
        (state.cluster.store (.child kind)).contains db = (kind != .route) := by
  intro web db named cluster error first second steps state
  let tasks : List Task := [⟨"t1", web, first, by decide⟩, ⟨"t2", db, second, by decide⟩]
  have hsteps : Step.Interleave tasks steps := by
    refine ⟨by decide, ?_⟩
    intro index task htask
    match index with
    | 0 => cases htask; rfl
    | 1 => cases htask; rfl
    | later + 2 => cases htask
  obtain ⟨htasks, _⟩ := independent_of_distinct_keys cluster tasks (by decide) steps hsteps
  obtain ⟨hweb, _, hwebStores⟩ := htasks 0 _ rfl
  obtain ⟨hdb, _, hdbStores⟩ := htasks 1 _ rfl
  refine ⟨hweb, hdb, ?_⟩
  intro kind
  refine ⟨(congrArg Option.isSome (hwebStores (.child kind))).trans ?_,
    (congrArg Option.isSome (hdbStores (.child kind))).trans ?_⟩
  · cases kind <;> decide +kernel
  · cases kind <;> decide +kernel

end Interleaved

end ServerOperator
