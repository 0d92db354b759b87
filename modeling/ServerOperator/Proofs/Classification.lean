import ServerOperator.Cluster.Disturbed
import ServerOperator.Proofs.Trace

/-!
# What a read says about a child

Whatever a read of a child is answered, it is one of four findings: the child cannot be read, it is
missing, it is there but does not serve yet, or it serves. Each finding is told by a status and a
reason of its own, so the report tells which one it was. What an object says of itself decides only by
one signal, which no other signal can take back.
-/

namespace ServerOperator

/-- The cluster says that there is no such object. In which words it does so plays no part. -/
def ClusterError.SaysMissing (error : ClusterError) : Prop :=
  ∃ refusal, error = .refused refusal ∧ refusal.code = 404

theorem ClusterError.isNotFound_iff {error : ClusterError} :
    error.isNotFound = true ↔ error.SaysMissing := by
  cases error <;> simp [isNotFound, hasCode, SaysMissing]

/-- An object does not exist, in either way to say so. -/
def Absent (answer : Except ClusterError (Option α)) : Prop :=
  answer = .ok none ∨ ∃ error, answer = .error error ∧ error.SaysMissing

namespace ChildKind

/-- A deployment serves when it is available, a service once it exists, and a route when some router
has admitted it. -/
def Serves : (kind : ChildKind) → kind.Object → Prop
  | deployment => fun deployment : Deployment =>
      ∃ status, deployment.status = some status ∧
        ∃ conditions, status.conditions = some conditions ∧
          ∃ condition ∈ conditions, condition.type = "Available" ∧ condition.status = "True"
  | service => fun _ => True
  | route => fun route : Route =>
      ∃ status, route.status = some status ∧ ∃ ingress ∈ status.ingress,
        ∃ condition ∈ ingress.conditions, condition.type = "Admitted" ∧ condition.status = "True"

end ChildKind

theorem Deployment.isAvailable_iff (deployment : Deployment) :
    deployment.isAvailable = true ↔ ChildKind.deployment.Serves deployment := by
  rcases deployment with ⟨_, _, _ | ⟨_, _ | conditions, _⟩⟩ <;>
    simp [isAvailable, ChildKind.Serves, DeploymentCondition.isAvailability]

theorem Route.isAdmitted_iff (route : Route) :
    route.isAdmitted = true ↔ ChildKind.route.Serves route := by
  rcases route with ⟨_, _, _ | ⟨ingress⟩⟩ <;>
    simp [isAdmitted, ChildKind.Serves, RouteCondition.isAdmission]

theorem ChildKind.isReady_iff_serves (kind : ChildKind) (object : kind.Object) :
    kind.isReady object = true ↔ kind.Serves object := by
  cases kind with
  | deployment => exact Deployment.isAvailable_iff object
  | service => simp [isReady, Serves]
  | route => exact Route.isAdmitted_iff object

/-! ### Signals -/

/-- What an object says of itself: that a condition of a type has a status. -/
structure Signal where
  type : String
  status : String
deriving DecidableEq

namespace ChildKind

/-- The conditions of a deployment, or those of all ingresses of a route. -/
def signals : (kind : ChildKind) → kind.Object → List Signal
  | deployment => fun deployment : Deployment =>
      ((deployment.status.bind DeploymentStatus.conditions).getD []).map fun condition =>
        ⟨condition.type, condition.status⟩
  | service => fun _ => []
  | route => fun route : Route =>
      ((route.status.map RouteStatus.ingress).getD []).flatMap fun ingress =>
        ingress.conditions.map fun condition => ⟨condition.type, condition.status⟩

/-- The one signal that decides, where the object does not serve by existing. -/
def decisive : ChildKind → Option Signal
  | deployment => some ⟨"Available", "True"⟩
  | service => none
  | route => some ⟨"Admitted", "True"⟩

theorem serves_iff_mem_signals (kind : ChildKind) (object : kind.Object) :
    kind.Serves object ↔ ∀ signal ∈ kind.decisive, signal ∈ kind.signals object := by
  cases kind with
  | deployment =>
      rcases object with ⟨_, _, _ | ⟨_, _ | conditions, _⟩⟩ <;> simp [Serves, decisive, signals]
  | service => simp [Serves, decisive]
  | route => rcases object with ⟨_, _, _ | ⟨ingress⟩⟩ <;> simp [Serves, decisive, signals]

theorem Serves.mono {kind : ChildKind} {first second : kind.Object}
    (hsignals : kind.signals first ⊆ kind.signals second) (hfirst : kind.Serves first) :
    kind.Serves second := by
  rw [kind.serves_iff_mem_signals] at hfirst ⊢
  intro signal hdecisive
  exact hsignals (hfirst signal hdecisive)

/-- Two objects that are both ready or both not are reported alike. -/
theorem readiness_congr (kind : ChildKind) (name : String) {first second : kind.Object}
    (hready : kind.isReady first = kind.isReady second) :
    kind.readiness name first = kind.readiness name second := by
  cases kind with
  | deployment =>
      have havailable : Deployment.isAvailable first = Deployment.isAvailable second := hready
      simp only [readiness, havailable]
  | service => rfl
  | route =>
      have hadmitted : Route.isAdmitted first = Route.isAdmitted second := hready
      simp only [readiness, hadmitted]

end ChildKind

/-! ### Findings -/

inductive Finding where
  | unreadable
  | missing
  | waiting
  | serving

namespace Finding

/-- The answers that amount to a finding. -/
def Fits (kind : ChildKind) (answer : Except ClusterError (Option kind.Object)) : Finding → Prop
  | unreadable => ∃ error, answer = .error error ∧ ¬error.SaysMissing
  | missing => Absent answer
  | waiting => ∃ object, answer = .ok (some object) ∧ ¬kind.Serves object
  | serving => ∃ object, answer = .ok (some object) ∧ kind.Serves object

def status : Finding → ConditionStatus
  | unreadable => .unknown
  | missing => .false
  | waiting => .false
  | serving => .true

def reason : ChildKind → Finding → String
  | kind, unreadable => kind.name ++ "GetFailed"
  | kind, missing => kind.name ++ "NotFound"
  | .route, waiting => "RouteNotAdmitted"
  | kind, waiting => kind.name ++ "NotReady"
  | kind, serving => kind.name ++ "Ready"

theorem reason_missing_ne (kind : ChildKind) : missing.reason kind ≠ waiting.reason kind := by
  cases kind <;> decide

/-- Only a child that is missing and one that does not serve yet have the same status. -/
theorem eq_of_status_of_reason {kind : ChildKind} {finding other : Finding}
    (hstatus : finding.status = other.status) (hreason : finding.reason kind = other.reason kind) :
    finding = other := by
  have hne := reason_missing_ne kind
  cases finding <;> cases other <;> simp_all [status]

variable {kind : ChildKind} {answer : Except ClusterError (Option kind.Object)}

theorem exists_fits (kind : ChildKind) (answer : Except ClusterError (Option kind.Object)) :
    ∃ finding : Finding, finding.Fits kind answer := by
  rcases answer with error | (_ | object)
  · by_cases hmissing : error.SaysMissing
    · exact ⟨missing, .inr ⟨error, rfl, hmissing⟩⟩
    · exact ⟨unreadable, error, rfl, hmissing⟩
  · exact ⟨missing, .inl rfl⟩
  · by_cases hserves : kind.Serves object
    · exact ⟨serving, object, rfl, hserves⟩
    · exact ⟨waiting, object, rfl, hserves⟩

end Finding

namespace ChildKind

variable {kind : ChildKind} {answer : Except ClusterError (Option kind.Object)}

theorem observed_of_unreadable (name : String) {error : ClusterError}
    (hmissing : ¬error.SaysMissing) :
    kind.observed name (.error error) = kind.getFailed name error :=
  if_neg (mt ClusterError.isNotFound_iff.mp hmissing)

theorem observed_of_absent (name : String) (habsent : Absent answer) :
    kind.observed name answer = kind.notFound name := by
  rcases habsent with rfl | ⟨error, rfl, hmissing⟩
  · rfl
  · exact if_pos (ClusterError.isNotFound_iff.mpr hmissing)

theorem readiness_of_serves (name : String) {object : kind.Object} (hserves : kind.Serves object) :
    kind.readiness name object = kind.ready name := by
  have hready := (kind.isReady_iff_serves object).mpr hserves
  cases kind with
  | deployment => exact if_pos hready
  | service => rfl
  | route => exact if_pos hready

theorem readiness_of_not_serves (name : String) {object : kind.Object}
    (hserves : ¬kind.Serves object) :
    (kind.readiness name object).status = .false ∧
      (kind.readiness name object).reason = Finding.waiting.reason kind := by
  have hready := mt (kind.isReady_iff_serves object).mp hserves
  cases kind with
  | deployment =>
      have hreadiness : deployment.readiness name object = .ofVerdict .deploymentAvailable
          ⟨.false, "DeploymentNotReady", "Deployment " ++ name ++ " is not yet available"⟩ :=
        if_neg hready
      rw [hreadiness]
      exact ⟨rfl, rfl⟩
  | service => exact absurd trivial hserves
  | route =>
      have hreadiness : route.readiness name object = .ofVerdict .routeAvailable
          ⟨.false, "RouteNotAdmitted", "Route " ++ name ++ " has not been admitted by a router yet"⟩ :=
        if_neg hready
      rw [hreadiness]
      exact ⟨rfl, rfl⟩

/-- A finding is told by its status and its reason. -/
theorem told_of_fits (name : String) {finding : Finding} (hfits : finding.Fits kind answer) :
    (kind.observed name answer).status = finding.status ∧
      (kind.observed name answer).reason = finding.reason kind := by
  cases finding with
  | unreadable =>
      obtain ⟨error, rfl, hmissing⟩ := hfits
      rw [observed_of_unreadable name hmissing]
      cases kind <;> exact ⟨rfl, rfl⟩
  | missing =>
      rw [observed_of_absent name hfits]
      cases kind <;> exact ⟨rfl, rfl⟩
  | waiting =>
      obtain ⟨object, rfl, hserves⟩ := hfits
      exact readiness_of_not_serves name hserves
  | serving =>
      obtain ⟨object, rfl, hserves⟩ := hfits
      change (kind.readiness name object).status = _ ∧ (kind.readiness name object).reason = _
      rw [readiness_of_serves name hserves]
      cases kind <;> exact ⟨rfl, rfl⟩

theorem told_iff_fits (name : String) (finding : Finding) :
    (kind.observed name answer).status = finding.status ∧
        (kind.observed name answer).reason = finding.reason kind ↔
      finding.Fits kind answer := by
  constructor
  · rintro ⟨hstatus, hreason⟩
    obtain ⟨found, hfound⟩ := Finding.exists_fits kind answer
    obtain ⟨hfoundStatus, hfoundReason⟩ := told_of_fits name hfound
    have hsame : finding = found := by
      apply Finding.eq_of_status_of_reason
      · rw [← hstatus, hfoundStatus]
      · rw [← hreason, hfoundReason]
    rwa [hsame]
  · exact told_of_fits name

/-- Where only one finding has the status, the status alone tells it. -/
theorem status_observed_iff (name : String) (finding : Finding)
    (honly : ∀ other : Finding, other.status = finding.status → other = finding) :
    (kind.observed name answer).status = finding.status ↔ finding.Fits kind answer := by
  constructor
  · intro hstatus
    obtain ⟨found, hfound⟩ := Finding.exists_fits kind answer
    have hsame : found = finding := by
      apply honly
      rw [← hstatus, (told_of_fits name hfound).1]
    rwa [← hsame]
  · exact fun hfits => (told_of_fits name hfits).1

theorem status_observed_unknown_iff (name : String) :
    (kind.observed name answer).status = .unknown ↔
      ∃ error, answer = .error error ∧ ¬error.SaysMissing := by
  refine status_observed_iff name .unreadable fun other hstatus => ?_
  cases other <;> first | rfl | cases hstatus

theorem status_observed_true_iff (name : String) :
    (kind.observed name answer).status = .true ↔
      ∃ object, answer = .ok (some object) ∧ kind.Serves object := by
  refine status_observed_iff name .serving fun other hstatus => ?_
  cases other <;> first | rfl | cases hstatus

/-- Signals other than the decisive one have no say. -/
theorem observed_congr (name : String) {first second : kind.Object}
    (hsignals : ∀ signal ∈ kind.decisive,
      signal ∈ kind.signals first ↔ signal ∈ kind.signals second) :
    kind.observed name (.ok (some first)) = kind.observed name (.ok (some second)) := by
  refine kind.readiness_congr name (Bool.eq_iff_iff.mpr ?_)
  rw [kind.isReady_iff_serves, kind.isReady_iff_serves, kind.serves_iff_mem_signals,
    kind.serves_iff_mem_signals]
  exact forall₂_congr hsignals

theorem message_getFailed (kind : ChildKind) (name : String) (error : ClusterError) :
    ∃ opening between,
      (kind.getFailed name error).message = opening ++ name ++ between ++ error.message := by
  cases kind with
  | deployment => exact ⟨"Failed to retrieve Deployment ", ", ", rfl⟩
  | service => exact ⟨"Failed to get Service ", ": ", rfl⟩
  | route => exact ⟨"Failed to get Route ", ": ", rfl⟩

end ChildKind

namespace Pass

/-- A read that is answered is no failure, whatever the answer is. -/
theorem run_evaluate (backend : Backend σ) {state after : σ} {key : Key} {kind : ChildKind}
    {answer : Except ClusterError (Option kind.Object)}
    (hrunning : backend.isCancelled state = false)
    (hread : backend.perform (.get kind key) state = (some answer, after)) :
    (evaluate key kind).run backend state = (.ok (kind.observed key.name answer), after) :=
  (ask_answered hrunning hread).2

/-- Every answer to a read is classified. Reading a child without being cancelled gives a condition of
the child's type without a time. Its status and reason are those of exactly the finding that the
answer amounts to; it is unknown exactly if the child could not be read, with the name and the whole
error in the message, and true exactly if the child serves. What an object says besides the decisive
signal, in which order and how often, changes nothing, and more signals take no readiness away. -/
theorem evaluate_classifies (backend : Backend σ) {state after : σ} {key : Key} {kind : ChildKind}
    {answer : Except ClusterError (Option kind.Object)}
    (hrunning : backend.isCancelled state = false)
    (hread : backend.perform (.get kind key) state = (some answer, after)) :
    let report (told : Except ClusterError (Option kind.Object)) : Condition :=
      kind.observed key.name told
    (evaluate key kind).run backend state = (.ok (report answer), after) ∧
      ((report answer).type = kind.conditionType ∧ (report answer).lastTransitionTime = none) ∧
      (∀ finding : Finding, (report answer).status = finding.status ∧
        (report answer).reason = finding.reason kind ↔ finding.Fits kind answer) ∧
      ((report answer).status = .unknown ↔ ∃ error, answer = .error error ∧ ¬error.SaysMissing) ∧
      (∀ error, answer = .error error → ¬error.SaysMissing → ∃ opening between,
        (report answer).message = opening ++ key.name ++ between ++ error.message) ∧
      ((report answer).status = .true ↔
        ∃ object, answer = .ok (some object) ∧ kind.Serves object) ∧
      (∀ first second : kind.Object,
        (∀ signal ∈ kind.decisive, signal ∈ kind.signals first ↔ signal ∈ kind.signals second) →
          report (.ok (some first)) = report (.ok (some second))) ∧
      ∀ first second : kind.Object, kind.signals first ⊆ kind.signals second →
        (report (.ok (some first))).status = .true →
          (report (.ok (some second))).status = .true := by
  intro report
  refine ⟨run_evaluate backend hrunning hread, ⟨?_, ?_⟩, ?_, ?_, ?_, ?_, ?_, ?_⟩
  · exact kind.type_observed key.name answer
  · exact kind.lastTransitionTime_observed key.name answer
  · exact ChildKind.told_iff_fits key.name
  · exact ChildKind.status_observed_unknown_iff key.name
  · rintro error rfl hmissing
    change ∃ opening between, (kind.observed key.name (.error error)).message = _
    rw [ChildKind.observed_of_unreadable key.name hmissing]
    exact kind.message_getFailed key.name error
  · exact ChildKind.status_observed_true_iff key.name
  · intro first second hsignals
    exact ChildKind.observed_congr key.name hsignals
  · intro first second hsignals hfirst
    obtain ⟨object, hobject, hserves⟩ := (ChildKind.status_observed_true_iff key.name).mp hfirst
    cases hobject
    exact (ChildKind.status_observed_true_iff key.name).mpr ⟨second, rfl, hserves.mono hsignals⟩

/-- The route cannot be read, for a reason that is given in other words than usual: it is missing all
the same. -/
theorem evaluate_classifies_gone :
    let key : Key := ⟨"default", "web"⟩
    let error := Cluster.refusal "no such route" "Gone" 404
    let state := DisturbedCluster.calm.fail "get Route" error
    ∃ after, (evaluate key .route).run DisturbedCluster.backend state =
        (.ok (ChildKind.route.observed "web" (.error error)), after) ∧
      (ChildKind.route.observed "web" (.error error)).status = .false ∧
      (ChildKind.route.observed "web" (.error error)).reason = "RouteNotFound" := by
  intro key error state
  have hread : DisturbedCluster.backend.perform (.get .route key) state =
      (some (.error error), { state with journal := ["get Route"] }) := rfl
  obtain ⟨hrun, _, htold, _⟩ := evaluate_classifies DisturbedCluster.backend rfl hread
  have hmissing : Finding.missing.Fits .route (.error error) :=
    .inr ⟨error, rfl, _, rfl, rfl⟩
  exact ⟨_, hrun, (htold .missing).mpr hmissing⟩

end Pass

end ServerOperator
