import ServerOperator.Pass.Reconcile
import ServerOperator.Proofs.Merge

/-!
# What a pass reports

A pass reads each child once and merges what it read into the status. The reads alone decide what
is found afterwards: under the type of each child what its read says, and under the overall type
whether all reads found a child that is ready, or else which was the first that did not.
-/

namespace ServerOperator

@[simp]
theorem Condition.isTrue_ofVerdict (type : ConditionType) (verdict : Verdict) :
    (ofVerdict type verdict).isTrue = decide (verdict.status = .true) := rfl

theorem ConditionType.mem_all (type : ConditionType) : type ∈ ConditionType.all := by
  cases type <;> decide

theorem ChildKind.mem_all (kind : ChildKind) : kind ∈ ChildKind.all := by
  cases kind <;> decide

/-- What is given for each kind. -/
def ChildKind.family {Value : ChildKind → Type} (deployment : Value .deployment)
    (service : Value .service) (route : Value .route) : (kind : ChildKind) → Value kind
  | .deployment => deployment
  | .service => service
  | .route => route

abbrev Reads := (kind : ChildKind) → Except ClusterError (Option kind.Object)

namespace ChildKind

variable (kind : ChildKind) (name : String)

def foundReady : Except ClusterError (Option kind.Object) → Bool
  | .ok (some object) => kind.isReady object
  | _ => false

theorem foundReady_iff {answer : Except ClusterError (Option kind.Object)} :
    kind.foundReady answer = true ↔
      ∃ object, .ok (some object) = answer ∧ kind.isReady object = true := by
  rcases answer with error | (_ | object)
  · simp [foundReady]
  · simp [foundReady]
  · simp [foundReady]

theorem isTrue_readiness (object : kind.Object) :
    (kind.readiness name object).isTrue = kind.isReady object := by
  cases kind with
  | deployment =>
      cases hready : Deployment.isAvailable object <;>
        simp [readiness, isReady, hready, ready]
  | service => simp [readiness, isReady, ready]
  | route =>
      cases hready : Route.isAdmitted object <;>
        simp [readiness, isReady, hready, ready]

theorem readiness_eq_ofVerdict (object : kind.Object) :
    ∃ verdict, kind.readiness name object = .ofVerdict kind.conditionType verdict := by
  cases kind with
  | deployment =>
      by_cases hready : Deployment.isAvailable object = true
      · exact ⟨_, if_pos hready⟩
      · exact ⟨_, if_neg hready⟩
  | service => exact ⟨_, rfl⟩
  | route =>
      by_cases hready : Route.isAdmitted object = true
      · exact ⟨_, if_pos hready⟩
      · exact ⟨_, if_neg hready⟩

variable (answer : Except ClusterError (Option kind.Object))

/-- What is observed is a verdict of the child's type; when it came to be, only the merge says. -/
theorem observed_eq_ofVerdict :
    ∃ verdict, kind.observed name answer = .ofVerdict kind.conditionType verdict := by
  rcases answer with error | (_ | object)
  · by_cases hmissing : error.isNotFound = true
    · exact ⟨_, if_pos hmissing⟩
    · exact ⟨_, if_neg hmissing⟩
  · exact ⟨_, rfl⟩
  · exact kind.readiness_eq_ofVerdict name object

@[simp]
theorem type_observed : (kind.observed name answer).type = kind.conditionType := by
  obtain ⟨verdict, hverdict⟩ := kind.observed_eq_ofVerdict name answer
  rw [hverdict]
  rfl

theorem lastTransitionTime_observed : (kind.observed name answer).lastTransitionTime = none := by
  obtain ⟨verdict, hverdict⟩ := kind.observed_eq_ofVerdict name answer
  rw [hverdict]
  rfl

theorem isTrue_observed : (kind.observed name answer).isTrue = kind.foundReady answer := by
  rcases answer with error | (_ | object)
  · by_cases hmissing : error.isNotFound = true
    · exact congrArg Condition.isTrue (if_pos hmissing)
    · exact congrArg Condition.isTrue (if_neg hmissing)
  · rfl
  · exact kind.isTrue_readiness name object

end ChildKind

/-- The conditions that the reads of the children give, in the order of the kinds. -/
def Reads.conditions (reads : Reads) (name : String) : List Condition :=
  ChildKind.all.map fun kind => kind.observed name (reads kind)

theorem Reads.map_type_conditions (reads : Reads) (name : String) :
    (reads.conditions name).map Condition.type =
      [.deploymentAvailable, .serviceAvailable, .routeAvailable] := by
  simp [conditions, ChildKind.all, ChildKind.conditionType]

namespace Conditions

/-- The overall verdict by which children are ready. -/
def verdictOf (ready : ChildKind → Bool) : Verdict :=
  match ChildKind.all.find? fun kind => !ready kind with
  | some kind => notReady kind
  | none => allReady

theorem overall_eq_verdictOf (conditions : List Condition) :
    overall conditions = .ofVerdict .available (verdictOf (isReady conditions)) := rfl

theorem verdictOf_eq_allReady {ready : ChildKind → Bool} (hready : ∀ kind, ready kind = true) :
    verdictOf ready = allReady := by
  have hnone : ChildKind.all.find? (fun kind => !ready kind) = none := by
    rw [List.find?_eq_none]
    intro kind _
    simp [hready kind]
  unfold verdictOf
  rw [hnone]

theorem verdictOf_status_iff (ready : ChildKind → Bool) :
    (verdictOf ready).status = .true ↔ ∀ kind, ready kind = true := by
  constructor
  · intro hstatus kind
    unfold verdictOf at hstatus
    split at hstatus
    · cases hstatus
    · rename_i hnone
      have hkind := List.find?_eq_none.mp hnone kind kind.mem_all
      simpa using hkind
  · intro hready
    rw [verdictOf_eq_allReady hready]
    rfl

end Conditions

namespace Reads

open Conditions

variable (reads : Reads) (name now : String) (fetched : Option ServerStatus)

/-- The overall condition, by the reads alone. -/
def overall : Condition :=
  .ofVerdict .available (verdictOf fun kind => kind.foundReady (reads kind))

theorem isTrue_overall :
    reads.overall.isTrue = true ↔ ∀ kind : ChildKind, kind.foundReady (reads kind) = true := by
  unfold overall
  rw [Condition.isTrue_ofVerdict, decide_eq_true_iff]
  exact verdictOf_status_iff fun kind => kind.foundReady (reads kind)

/-- The conditions that a pass sets: one for each type, in the order of the types. -/
def reported : List Condition :=
  reads.conditions name ++ [reads.overall]

theorem map_type_reported : (reads.reported name).map Condition.type = ConditionType.all := by
  unfold reported
  rw [List.map_append, map_type_conditions]
  rfl

theorem exists_mem_reported (type : ConditionType) :
    ∃ new ∈ reads.reported name, new.type = type := by
  have htype : type ∈ (reads.reported name).map Condition.type := by
    rw [map_type_reported]
    exact type.mem_all
  exact List.mem_map.mp htype

theorem lastTransitionTime_reported {new : Condition} (hmem : new ∈ reads.reported name) :
    new.lastTransitionTime = none := by
  rcases List.mem_append.mp hmem with hchild | hoverall
  · obtain ⟨kind, _, rfl⟩ := List.mem_map.mp hchild
    exact kind.lastTransitionTime_observed name (reads kind)
  · rw [List.mem_singleton.mp hoverall]
    rfl

/-- The status that a pass makes of its reads and of the status that it fetched. -/
def status : ServerStatus :=
  ⟨setAll (reads.reported name) now (fetched.getD .empty).conditions⟩

theorem find?_status {new : Condition} (hmem : new ∈ reads.reported name) :
    find? (reads.status name now fetched).conditions new.type =
      some (merged (find? (fetched.getD .empty).conditions new.type) new now) := by
  refine find?_setAll_of_mem now _ ?_ hmem
  rw [map_type_reported]
  decide

/-- Whatever else is set, and whatever was held, a child counts as ready by its read. -/
theorem isReady_setAll {observed : List Condition} (conditions : List Condition)
    (hdistinct : (observed.map Condition.type).Nodup) {kind : ChildKind}
    (hmem : kind.observed name (reads kind) ∈ observed) :
    isReady (setAll observed now conditions) kind = kind.foundReady (reads kind) := by
  have hfind := find?_setAll_of_mem now conditions hdistinct hmem
  rw [kind.type_observed] at hfind
  unfold isReady
  rw [hfind, Option.any_some, ← kind.isTrue_observed name]
  have hverdict := congrArg Verdict.status
    (verdict_merged (find? conditions kind.conditionType) (kind.observed name (reads kind)) now)
  unfold Condition.isTrue
  exact congrArg (fun status => decide (status = .true)) hverdict

theorem overall_eq_of_isReady {conditions : List Condition}
    (hready : ∀ kind, isReady conditions kind = kind.foundReady (reads kind)) :
    Conditions.overall conditions = reads.overall := by
  rw [overall_eq_verdictOf]
  exact congrArg (fun ready => Condition.ofVerdict .available (verdictOf ready)) (funext hready)

/-- The overall verdict is on the very list in which it then stands. -/
theorem overall_status :
    Conditions.overall (reads.status name now fetched).conditions = reads.overall := by
  refine reads.overall_eq_of_isReady fun kind => ?_
  refine reads.isReady_setAll name now _ ?_ ?_
  · rw [map_type_reported]
    decide
  · exact List.mem_append_left _ (List.mem_map_of_mem kind.mem_all)

theorem overall_report (conditions : List Condition) :
    (report (reads.conditions name) now conditions).overall = reads.overall := by
  refine reads.overall_eq_of_isReady fun kind => ?_
  refine reads.isReady_setAll name now conditions ?_ (List.mem_map_of_mem kind.mem_all)
  rw [map_type_conditions]
  decide

theorem conditions_report :
    (report (reads.conditions name) now (fetched.getD .empty).conditions).conditions =
      (reads.status name now fetched).conditions := by
  have hoverall := reads.overall_report name now (fetched.getD .empty).conditions
  change (set (report (reads.conditions name) now _).overall now
    (setAll (reads.conditions name) now _)).1 = _
  rw [hoverall]
  unfold status reported setAll
  rw [List.foldl_append]
  rfl

end Reads

/-- A pass that merges what it read writes the status that the reads make. -/
theorem Pass.conclude_conditions (now : String) (key : Key) (fetched : Option ServerStatus)
    (reads : Reads) :
    conclude now key fetched (reads.conditions key.name) =
      (persist key fetched (reads.status key.name now fetched) >>= fun _ =>
        finished (actionOf reads.overall)) := by
  unfold conclude
  simp only [reads.overall_report, reads.conditions_report]
  rfl

end ServerOperator
