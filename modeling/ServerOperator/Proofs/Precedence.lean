import Mathlib.Data.List.Forall2
import Mathlib.Logic.Relation
import ServerOperator.Proofs.Report

/-!
# Which entry decides the overall verdict

The overall verdict is made of a list that may have come from anywhere: entries of a type may be
missing or repeated, and there may be overall entries from earlier. Of all this only the statuses of
the first entries of the children's types have a say, so the verdict outlasts every change that
leaves those alone.
-/

namespace ServerOperator.Conditions

variable {conditions : List Condition} {type : ConditionType}

/-- No entry of the same type stands before it. -/
def IsFirst (entry : Condition) (conditions : List Condition) : Prop :=
  ∃ earlier later, conditions = earlier ++ entry :: later ∧
    ∀ other ∈ earlier, other.type ≠ entry.type

theorem find?_eq_some_iff {entry : Condition} :
    find? conditions type = some entry ↔ IsFirst entry conditions ∧ entry.type = type := by
  unfold find?
  rw [List.find?_eq_some_iff_append, decide_eq_true_iff, and_comm]
  refine and_congr_left ?_
  rintro rfl
  simp [IsFirst]

theorem find?_eq_none_iff :
    find? conditions type = none ↔ ∀ entry ∈ conditions, entry.type ≠ type := by
  simp [find?]

/-- There is an entry of the type, and the first one has the status. -/
def FirstIs (status : ConditionStatus) (type : ConditionType) (conditions : List Condition) :
    Prop :=
  ∃ entry, IsFirst entry conditions ∧ entry.type = type ∧ entry.status = status

/-- What the first entry of a type has as its status, if there is one. -/
def standing (conditions : List Condition) (type : ConditionType) : Option ConditionStatus :=
  (find? conditions type).map Condition.status

theorem firstIs_iff {status : ConditionStatus} :
    FirstIs status type conditions ↔ standing conditions type = some status := by
  unfold standing FirstIs
  rw [Option.map_eq_some_iff]
  simp only [find?_eq_some_iff, and_assoc]

theorem isReady_iff {kind : ChildKind} :
    isReady conditions kind = true ↔ FirstIs .true kind.conditionType conditions := by
  rw [firstIs_iff]
  unfold isReady standing
  cases find? conditions kind.conditionType with
  | none => simp
  | some entry => simp [Condition.isTrue]

/-- The first entry for a child is missing, or it does not say that the child is available. -/
def Lacks (kind : ChildKind) (conditions : List Condition) : Prop :=
  (∀ entry ∈ conditions, entry.type ≠ kind.conditionType) ∨
    FirstIs .false kind.conditionType conditions ∨ FirstIs .unknown kind.conditionType conditions

theorem lacks_of_not_ready {kind : ChildKind}
    (hready : ¬FirstIs .true kind.conditionType conditions) : Lacks kind conditions := by
  cases hfind : find? conditions kind.conditionType with
  | none => exact .inl (find?_eq_none_iff.mp hfind)
  | some entry =>
      obtain ⟨hfirst, htype⟩ := find?_eq_some_iff.mp hfind
      cases hstatus : entry.status with
      | true => exact absurd ⟨entry, hfirst, htype, hstatus⟩ hready
      | false => exact .inr (.inl ⟨entry, hfirst, htype, hstatus⟩)
      | unknown => exact .inr (.inr ⟨entry, hfirst, htype, hstatus⟩)

theorem overall_eq_of_standing {held other : List Condition}
    (hsame : ∀ kind : ChildKind,
      standing held kind.conditionType = standing other kind.conditionType) :
    overall held = overall other := by
  have hready : isReady held = isReady other := by
    funext kind
    apply Bool.eq_iff_iff.mpr
    rw [isReady_iff, isReady_iff, firstIs_iff, firstIs_iff, hsame kind]
  rw [overall_eq_verdictOf, overall_eq_verdictOf, hready]

theorem forall_isReady_iff :
    (∀ kind, isReady conditions kind = true) ↔
      ∀ kind : ChildKind, FirstIs .true kind.conditionType conditions :=
  forall_congr' fun _ => isReady_iff

theorem overall_of_ready (hready : ∀ kind : ChildKind, FirstIs .true kind.conditionType conditions) :
    overall conditions = ⟨.available, .true, "AllComponentsReady",
      "All managed components (Deployment, Service, Route) are ready", none⟩ := by
  rw [overall_eq_verdictOf, verdictOf_eq_allReady (forall_isReady_iff.mpr hready)]
  rfl

/-- The first child that lacks a good entry is named. -/
theorem overall_of_not_ready
    (hnot : ¬∀ kind : ChildKind, FirstIs .true kind.conditionType conditions) :
    ∃ earlier kind later, ChildKind.all = earlier ++ kind :: later ∧
      (∀ other ∈ earlier, FirstIs .true other.conditionType conditions) ∧ Lacks kind conditions ∧
      overall conditions =
        ⟨.available, .false, kind.name ++ "NotReady", kind.name ++ " is not yet ready", none⟩ := by
  cases hfirst : ChildKind.all.find? fun kind => !isReady conditions kind with
  | none =>
      refine absurd (forall_isReady_iff.mp fun kind => ?_) hnot
      simpa using List.find?_eq_none.mp hfirst kind kind.mem_all
  | some kind =>
      obtain ⟨hkind, earlier, later, horder, hearlier⟩ := List.find?_eq_some_iff_append.mp hfirst
      have hlacks : ¬FirstIs .true kind.conditionType conditions := by
        rw [← isReady_iff]
        simpa using hkind
      refine ⟨earlier, kind, later, horder, ?_, lacks_of_not_ready hlacks, ?_⟩
      · intro other hmem
        rw [← isReady_iff]
        simpa using hearlier other hmem
      · unfold overall
        rw [hfirst]
        rfl

/-! ### What has no say -/

/-- One change to a list that is immaterial to the verdict. -/
inductive Immaterial : List Condition → List Condition → Prop where
  /-- Overall entries come and go, move and change, among others that stay as they are. -/
  | overallEntries {held other : List Condition}
      (hsame : held.filter (fun entry => entry.type ≠ .available) =
        other.filter (fun entry => entry.type ≠ .available)) : Immaterial held other
  /-- Entries get other reasons, messages and times. -/
  | wording {held other : List Condition}
      (hsame : List.Forall₂ (fun entry changed =>
        entry.type = changed.type ∧ entry.status = changed.status) held other) :
      Immaterial held other
  /-- An entry goes that stands after another one of its type. -/
  | repetition (earlier later : List Condition) (entry : Condition)
      (hearlier : entry.type ∈ earlier.map Condition.type) :
      Immaterial (earlier ++ entry :: later) (earlier ++ later)
  /-- Entries change places, but not with others of their type. -/
  | order {held other : List Condition}
      (hsame : ∀ type, held.filter (fun entry => entry.type = type) =
        other.filter (fun entry => entry.type = type)) : Immaterial held other

variable {held other : List Condition}

theorem find?_filter_of_ne {removed : ConditionType} (hne : type ≠ removed) :
    find? (conditions.filter fun entry => entry.type ≠ removed) type = find? conditions type := by
  unfold find?
  rw [List.find?_filter]
  congr 1
  ext entry
  by_cases htype : entry.type = type <;> simp [htype, hne]

theorem find?_append_of_mem {earlier : List Condition}
    (hmem : type ∈ earlier.map Condition.type) (later : List Condition) :
    find? (earlier ++ later) type = find? earlier type := by
  cases hfind : find? earlier type with
  | none =>
      obtain ⟨entry, hentry, htype⟩ := List.mem_map.mp hmem
      exact absurd htype (find?_eq_none_iff.mp hfind entry hentry)
  | some entry =>
      unfold find? at hfind ⊢
      rw [List.find?_append, hfind, Option.some_or]

theorem find?_repetition {earlier later : List Condition} {entry : Condition}
    (hearlier : entry.type ∈ earlier.map Condition.type) :
    find? (earlier ++ entry :: later) type = find? (earlier ++ later) type := by
  by_cases htype : entry.type = type
  · rw [htype] at hearlier
    rw [find?_append_of_mem hearlier, find?_append_of_mem hearlier]
  · simp [find?, htype]

theorem standing_wording
    (hsame : List.Forall₂ (fun entry changed =>
      entry.type = changed.type ∧ entry.status = changed.status) held other) :
    standing held type = standing other type := by
  induction hsame with
  | nil => rfl
  | @cons entry changed rest others hentry _ ih =>
      obtain ⟨htype, hstatus⟩ := hentry
      unfold standing at ih ⊢
      rw [find?_cons, find?_cons, htype]
      by_cases hfirst : changed.type = type
      · simp [hfirst, hstatus]
      · simpa [hfirst] using ih

theorem Immaterial.standing_eq (himmaterial : Immaterial held other)
    (hchild : type ≠ .available) : standing held type = standing other type := by
  cases himmaterial with
  | overallEntries hsame =>
      unfold standing
      rw [← find?_filter_of_ne hchild, hsame, find?_filter_of_ne hchild]
  | wording hsame => exact standing_wording hsame
  | repetition earlier later entry hearlier =>
      unfold standing
      rw [find?_repetition hearlier]
  | order hsame =>
      unfold standing find?
      rw [← List.head?_filter, ← List.head?_filter, hsame type]

theorem Immaterial.overall_eq (himmaterial : Immaterial held other) :
    Conditions.overall held = Conditions.overall other := by
  refine overall_eq_of_standing fun kind => himmaterial.standing_eq ?_
  cases kind <;> decide

theorem overall_eq_of_eqvGen (hchanges : Relation.EqvGen Immaterial held other) :
    overall held = overall other := by
  induction hchanges with
  | rel held other himmaterial => exact himmaterial.overall_eq
  | refl held => rfl
  | symm held other _ ih => exact ih.symm
  | trans held between other _ _ ihfirst ihsecond => exact ihfirst.trans ihsecond

/-- The overall verdict on any list. It is good exactly if for each child there is an entry and the
first one is true; otherwise it names the first child, in the order of the kinds, whose first entry
is missing, false or unknown. However many immaterial changes are made to the list, in either
direction, the verdict stays. -/
theorem overall_precedence (conditions : List Condition) :
    ((overall conditions).status = .true ↔
        ∀ kind : ChildKind, FirstIs .true kind.conditionType conditions) ∧
      ((∀ kind : ChildKind, FirstIs .true kind.conditionType conditions) →
        overall conditions = ⟨.available, .true, "AllComponentsReady",
          "All managed components (Deployment, Service, Route) are ready", none⟩) ∧
      ((¬∀ kind : ChildKind, FirstIs .true kind.conditionType conditions) →
        ∃ earlier kind later, ChildKind.all = earlier ++ kind :: later ∧
          (∀ other ∈ earlier, FirstIs .true other.conditionType conditions) ∧
          Lacks kind conditions ∧
          overall conditions = ⟨.available, .false, kind.name ++ "NotReady",
            kind.name ++ " is not yet ready", none⟩) ∧
      ∀ changed, Relation.EqvGen Immaterial conditions changed →
        overall changed = overall conditions := by
  refine ⟨?_, overall_of_ready, overall_of_not_ready, ?_⟩
  · rw [← forall_isReady_iff, ← verdictOf_status_iff, overall_eq_verdictOf]
    rfl
  · intro changed hchanged
    exact (overall_eq_of_eqvGen hchanged).symm

/-- An overall entry from earlier, entries in another order, one that is repeated with another status
and one that is worded differently: none of this has a say. -/
theorem overall_precedence_disordered :
    let deployment : Condition := ⟨.deploymentAvailable, .true, "", "", none⟩
    let service : Condition := ⟨.serviceAvailable, .unknown, "", "", none⟩
    let route : Condition := ⟨.routeAvailable, .false, "", "", none⟩
    let stale : Condition := ⟨.available, .true, "Old", "old", some "t0"⟩
    let repeated : Condition := { service with status := .true }
    let reworded : Condition := { route with reason := "New", lastTransitionTime := some "t1" }
    let tidy := [deployment, service, route]
    let disordered := [stale, reworded, service, deployment, repeated]
    Relation.EqvGen Immaterial tidy disordered ∧
      overall disordered = ⟨.available, .false, "ServiceNotReady", "Service is not yet ready", none⟩ := by
  intro deployment service route stale repeated reworded tidy disordered
  have horder : Immaterial tidy [route, service, deployment] := by
    refine .order fun type => ?_
    cases type <;> decide
  have hwording : Immaterial [route, service, deployment] [reworded, service, deployment] :=
    .wording (.cons ⟨rfl, rfl⟩ (.cons ⟨rfl, rfl⟩ (.cons ⟨rfl, rfl⟩ .nil)))
  have hrepetition : Immaterial [reworded, service, deployment, repeated]
      [reworded, service, deployment] :=
    .repetition [reworded, service, deployment] [] repeated (by decide)
  have hoverall : Immaterial [reworded, service, deployment, repeated] disordered :=
    .overallEntries (by decide)
  have hchanges : Relation.EqvGen Immaterial tidy disordered :=
    .trans _ _ _ (.trans _ _ _ (.rel _ _ horder) (.rel _ _ hwording))
      (.trans _ _ _ (.symm _ _ (.rel _ _ hrepetition)) (.rel _ _ hoverall))
  obtain ⟨_, _, _, hsame⟩ := overall_precedence tidy
  refine ⟨hchanges, ?_⟩
  rw [hsame disordered hchanges]
  decide

end ServerOperator.Conditions
