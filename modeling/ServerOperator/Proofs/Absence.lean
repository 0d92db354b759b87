import ServerOperator.Http.Response
import ServerOperator.Proofs.Classification
import ServerOperator.Proofs.Course

/-!
# Records that are gone

That an object does not exist is answered in two ways: none is found, or the call is refused with the
code for it. A read of a child takes both for the same. The fetch of a record takes only the first
one so; the second is an error like any other, after which the record is looked for again and again.
-/

namespace ServerOperator

/-- Where a call neither depends on the cluster nor changes it, the cluster stays as it was. -/
theorem Backend.perform_over {backend : Backend σ} (lands : σ → Bool) (cluster : Cluster)
    {call : Call} {state after : σ} {told : Option call.Answer}
    (hperform : backend.perform call state = (told, after))
    (hpossible : call.possible cluster told = told) (hcluster : (cluster.answer call).2 = cluster) :
    (backend.over lands).perform call (state, cluster) = (told, after, cluster) := by
  simp only [Backend.over, hperform, hpossible, hcluster, ite_self]

namespace Pass

/-- A pass fetches the record and goes on by the answer. -/
theorem reconcile_eq_ask (now : String) (key : Key) :
    reconcile now key = ask (.fetch key) fun
      | .ok (some server) => tend now key server
      | .ok none => finished .awaitChange
      | .error source => failed (.fetch key source) := by
  refine congrArg (ask (.fetch key)) (funext fun answer => ?_)
  rcases answer with source | (_ | server) <;> rfl

section Stores

variable {backend : Backend σ} (now : String) {key : Key} {state after : σ}

theorem reconcile_of_none (hrunning : backend.isCancelled state = false)
    (hfetch : backend.perform (.fetch key) state = (some (.ok none), after)) :
    (reconcile now key).exchanges backend state = [⟨.fetch key, some (.ok none)⟩] ∧
      (reconcile now key).run backend state = (.ok .awaitChange, after) := by
  rw [reconcile_eq_ask]
  exact ask_answered hrunning hfetch

theorem reconcile_of_error {source : ClusterError} (hrunning : backend.isCancelled state = false)
    (hfetch : backend.perform (.fetch key) state = (some (.error source), after)) :
    (reconcile now key).exchanges backend state = [⟨.fetch key, some (.error source)⟩] ∧
      (reconcile now key).run backend state = (.error (.fetch key source), after) := by
  rw [reconcile_eq_ask]
  exact ask_answered hrunning hfetch

theorem evaluate_of_absent {kind : ChildKind} {answer : Except ClusterError (Option kind.Object)}
    (habsent : Absent answer) (hrunning : backend.isCancelled state = false)
    (hread : backend.perform (.get kind key) state = (some answer, after)) :
    (evaluate key kind).run backend state = (.ok (kind.notFound key.name), after) := by
  rw [run_evaluate backend hrunning hread, ChildKind.observed_of_absent key.name habsent]

end Stores

/-- What a pass makes of a record that is gone. One whose record is not found ends there, without
another call or any change, and waits. One whose fetch is refused fails with that very error, also
where the refusal says that there is no such record: of the two ways to say so, the first alone lets
the pass end well. A child is missing in either way. -/
theorem reconcile_absent (backend : Backend σ) (lands : σ → Bool) (now : String) (key : Key)
    {state after : σ} (cluster : Cluster) {answer : Except ClusterError (Option Server)}
    (hrunning : backend.isCancelled state = false)
    (hfetch : backend.perform (.fetch key) state = (some answer, after)) :
    let log := (reconcile now key).exchanges (backend.over lands) (state, cluster)
    let ended := (reconcile now key).run (backend.over lands) (state, cluster)
    (answer = .ok none →
        log = [⟨.fetch key, some answer⟩] ∧ ended = (.ok .awaitChange, after, cluster)) ∧
      (∀ source, answer = .error source →
        log = [⟨.fetch key, some answer⟩] ∧ ended = (.error (.fetch key source), after, cluster)) ∧
      (Absent answer → (ended.1 = .ok .awaitChange ↔ answer = .ok none)) ∧
      ∀ (kind : ChildKind) (read : Except ClusterError (Option kind.Object)) (before later : σ),
        Absent read → backend.isCancelled before = false →
          backend.perform (.get kind key) before = (some read, later) →
            (evaluate key kind).run (backend.over lands) (before, cluster) =
              (.ok (kind.notFound key.name), later, cluster) := by
  intro log ended
  have hlive (quiet : σ) (hquiet : backend.isCancelled quiet = false) :
      (backend.over lands).isCancelled (quiet, cluster) = false := hquiet
  have hperform := Backend.perform_over lands cluster hfetch rfl rfl
  have hnone : answer = .ok none →
      log = [⟨.fetch key, some answer⟩] ∧ ended = (.ok .awaitChange, after, cluster) := by
    rintro rfl
    exact reconcile_of_none now (hlive state hrunning) hperform
  have herror : ∀ source, answer = .error source → log = [⟨.fetch key, some answer⟩] ∧
      ended = (.error (.fetch key source), after, cluster) := by
    rintro source rfl
    exact reconcile_of_error now (hlive state hrunning) hperform
  refine ⟨hnone, herror, ?_, ?_⟩
  · rintro (hmissing | ⟨source, hrefused, _⟩)
    · obtain ⟨_, hended⟩ := hnone hmissing
      simp [hended, hmissing]
    · obtain ⟨_, hended⟩ := herror source hrefused
      simp [hended, hrefused]
  · intro kind read before later habsent hbefore hread
    exact evaluate_of_absent habsent (hlive before hbefore)
      (Backend.perform_over lands cluster hread rfl rfl)

/-- There is no record, and the service is refused with the code for a missing object. -/
theorem reconcile_absent_refusedService :
    let key : Key := ⟨"default", "web"⟩
    let refusal := Cluster.refusal "no such service" "Gone" 404
    let state := DisturbedCluster.calm.fail "get Service" refusal
    let stores := DisturbedCluster.backend.over fun _ => false
    ((reconcile "t1" key).run stores (state, .empty)).1 = .ok .awaitChange ∧
      ((evaluate key .service).run stores (state, .empty)).1 =
        .ok (ChildKind.service.notFound "web") := by
  intro key refusal state stores
  have hfetch : DisturbedCluster.backend.perform (.fetch key) state =
      (some (.ok none), { state with journal := ["fetch MCPServer"] }) := rfl
  have hread : DisturbedCluster.backend.perform (.get .service key) state =
      (some (.error refusal), { state with journal := ["get Service"] }) := rfl
  obtain ⟨hnone, _, _, hchild⟩ := reconcile_absent DisturbedCluster.backend (fun _ => false) "t1" key
    .empty rfl hfetch
  have hmissing : Absent (.error refusal : Except ClusterError (Option Service)) :=
    .inr ⟨refusal, rfl, _, rfl, rfl⟩
  exact ⟨congrArg Prod.fst (hnone rfl).2,
    congrArg Prod.fst (hchild .service _ state _ hmissing rfl hread)⟩

/-- The cluster knows no path to such records and answers with a page that says so: by its code it is
a refusal for a missing object. A child is then missing, but the pass fails. -/
theorem reconcile_refused_absent :
    let key : Key := ⟨"default", "web"⟩
    let conversation : Conversation := ⟨[.response 404 "404 page not found".toUTF8.toList], []⟩
    let source : ClusterError := .refused
      ⟨"404 Not Found", "\"404 page not found\"", "Failed to parse error data", 404⟩
    let ended := (reconcile "t1" key).run Conversation.backend conversation
    (Conversation.backend.perform (.fetch key) conversation).1 = some (.error source) ∧
      source.SaysMissing ∧ ended.1 = .error (.fetch key source) ∧ ended.1 ≠ .ok .awaitChange ∧
      ((evaluate key .deployment).run Conversation.backend conversation).1 =
        .ok (ChildKind.deployment.notFound "web") := by
  intro key conversation source ended
  have hended : ended.1 = .error (.fetch key source) := by decide +kernel
  refine ⟨by decide +kernel, ⟨_, rfl, rfl⟩, hended, ?_, by decide +kernel⟩
  rw [hended]
  nofun

end Pass

end ServerOperator
