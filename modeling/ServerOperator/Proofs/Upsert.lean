import ServerOperator.Proofs.Precedence

/-!
# A condition has one place

Conditions are kept in a list, but under the type of each as in a table. Setting one works on a single
place: that of the first entry of its type, or a new one at the end. So nothing else is disturbed,
setting it once more does nothing, and two types can be set in either order.
-/

namespace ServerOperator.Conditions

/-- Setting a condition takes one list to another, and tells whether they differ. -/
inductive Upserts (new : Condition) (now : String) :
    List Condition → List Condition → Bool → Prop where
  /-- There is no entry of its type, and one is added at the end. -/
  | appended {conditions : List Condition}
      (habsent : ∀ entry ∈ conditions, entry.type ≠ new.type) :
      Upserts new now conditions
        (conditions ++ [⟨new.type, new.status, new.reason, new.message,
          some (new.lastTransitionTime.getD now)⟩]) true
  /-- The first entry of its type says something else, and takes over what the new one says. -/
  | replaced {earlier later : List Condition} {held : Condition}
      (hearlier : ∀ entry ∈ earlier, entry.type ≠ new.type) (htype : held.type = new.type)
      (hverdict : held.verdict ≠ new.verdict) :
      Upserts new now (earlier ++ held :: later)
        (earlier ++ ⟨new.type, new.status, new.reason, new.message,
          if held.status = new.status then held.lastTransitionTime
          else some (new.lastTransitionTime.getD now)⟩ :: later) true
  /-- The first entry of its type says the same. -/
  | kept {conditions : List Condition} {held : Condition} (hfirst : IsFirst held conditions)
      (htype : held.type = new.type) (hverdict : held.verdict = new.verdict) :
      Upserts new now conditions conditions false

variable {new : Condition} {now : String} {conditions updated : List Condition} {changed : Bool}

/-! ### The place -/

/-- Entries of other types are passed over. -/
theorem set_append {earlier : List Condition} (hearlier : ∀ entry ∈ earlier, entry.type ≠ new.type)
    (now : String) (rest : List Condition) :
    set new now (earlier ++ rest) =
      (earlier ++ (set new now rest).1, (set new now rest).2) := by
  induction earlier with
  | nil => rfl
  | cons first others ih =>
      rw [List.forall_mem_cons] at hearlier
      obtain ⟨hfirst, hothers⟩ := hearlier
      simp only [List.cons_append, set, if_neg hfirst, ih hothers]

theorem Upserts.set_eq (hupserts : Upserts new now conditions updated changed) :
    set new now conditions = (updated, changed) := by
  cases hupserts with
  | appended habsent =>
      have hset := set_append habsent now []
      rwa [List.append_nil] at hset
  | @replaced earlier later held hearlier htype hverdict =>
      have hchanged : (held.verdict != new.verdict) = true := bne_iff_ne.mpr hverdict
      rw [set_append hearlier now (held :: later)]
      simp only [set, htype, if_true, update, since, hchanged]
  | kept hfirst htype hverdict =>
      exact set_eq_self now (find?_eq_some_iff.mpr ⟨hfirst, htype⟩) hverdict

theorem exists_upserts (new : Condition) (now : String) (conditions : List Condition) :
    ∃ updated changed, Upserts new now conditions updated changed := by
  cases hfind : find? conditions new.type with
  | none => exact ⟨_, _, .appended (find?_eq_none_iff.mp hfind)⟩
  | some held =>
      obtain ⟨hfirst, htype⟩ := find?_eq_some_iff.mp hfind
      by_cases hverdict : held.verdict = new.verdict
      · exact ⟨_, _, .kept hfirst htype hverdict⟩
      · obtain ⟨earlier, later, rfl, hearlier⟩ := hfirst
        rw [htype] at hearlier
        exact ⟨_, _, .replaced hearlier htype hverdict⟩

theorem set_eq_iff :
    set new now conditions = (updated, changed) ↔ Upserts new now conditions updated changed := by
  refine ⟨fun hset => ?_, Upserts.set_eq⟩
  obtain ⟨made, told, hupserts⟩ := exists_upserts new now conditions
  obtain ⟨rfl, rfl⟩ := Prod.mk.inj (hupserts.set_eq.symm.trans hset)
  exact hupserts

theorem upserts_set (new : Condition) (now : String) (conditions : List Condition) :
    Upserts new now conditions (set new now conditions).1 (set new now conditions).2 :=
  set_eq_iff.mp rfl

theorem Upserts.changed_iff (hupserts : Upserts new now conditions updated changed) :
    changed = true ↔ updated ≠ conditions := by
  cases hupserts with
  | appended habsent => simp
  | replaced hearlier htype hverdict =>
      refine iff_of_true rfl fun hsame => hverdict ?_
      have hentry := (List.cons_eq_cons.mp (List.append_cancel_left hsame)).1
      have hsaid := congrArg Condition.verdict hentry.symm
      exact hsaid
  | kept hfirst htype hverdict => simp

/-- Setting a condition changes something unless the first entry of its type says the same. -/
theorem Upserts.changed_iff_find? (hupserts : Upserts new now conditions updated changed) :
    changed = true ↔ (find? conditions new.type).map Condition.verdict ≠ some new.verdict := by
  cases hupserts with
  | appended habsent => simp [find?_eq_none_iff.mpr habsent]
  | @replaced earlier later held hearlier htype hverdict =>
      have hfirst : IsFirst held (earlier ++ held :: later) :=
        ⟨earlier, later, rfl, fun entry hmem => htype ▸ hearlier entry hmem⟩
      simp [find?_eq_some_iff.mpr ⟨hfirst, htype⟩, hverdict]
  | kept hfirst htype hverdict => simp [find?_eq_some_iff.mpr ⟨hfirst, htype⟩, hverdict]

theorem nodup_map_type_set (hdistinct : (conditions.map Condition.type).Nodup) :
    ((set new now conditions).1.map Condition.type).Nodup := by
  rw [map_type_set]
  split
  · exact hdistinct
  · rename_i hfresh
    rw [← List.concat_eq_append]
    exact hdistinct.concat hfresh

/-! ### Two updates -/

theorem find?_set (new : Condition) (now : String) (conditions : List Condition)
    (type : ConditionType) :
    find? (set new now conditions).1 type =
      if type = new.type then some (merged (find? conditions type) new now)
      else find? conditions type := by
  split
  · rename_i htype
    rw [htype, find?_set_self]
  · rename_i hne
    exact find?_set_of_ne new now conditions hne

theorem find?_set_comm {other : Condition} (hne : other.type ≠ new.type) (now later : String)
    (conditions : List Condition) (type : ConditionType) :
    find? (set other later (set new now conditions).1).1 type =
      find? (set new now (set other later conditions).1).1 type := by
  simp only [find?_set]
  by_cases hnew : type = new.type
  · simp [hnew, hne.symm]
  · by_cases hother : type = other.type <;> simp [hother, hne]

/-- What was done to another type has no part in whether setting a condition changes something. -/
theorem changed_set_set {other : Condition} (hne : other.type ≠ new.type) (now later : String)
    (conditions : List Condition) :
    (set new now (set other later conditions).1).2 = (set new now conditions).2 := by
  rw [Bool.eq_iff_iff, (upserts_set _ _ _).changed_iff_find?,
    (upserts_set _ _ _).changed_iff_find?, find?_set_of_ne other later conditions hne.symm]

/-- Setting a condition is an upsert by its type, whatever the list holds. One entry is touched, or
one is added at the end, and it is told truly whether that changed anything. The type is then looked
up to what was set, and every other type to what it was before. To set the same once more changes
nothing, at whatever time; types that were distinct stay so; and two conditions of different types can
be set in either order: everything is looked up to the same, and the same is told. -/
theorem set_upserts (new : Condition) (now : String) (conditions : List Condition) :
    let updated := (set new now conditions).1
    let changed := (set new now conditions).2
    Upserts new now conditions updated changed ∧
      (changed = true ↔ updated ≠ conditions) ∧
      (find? updated new.type).map Condition.verdict = some new.verdict ∧
      (∀ type, type ≠ new.type → find? updated type = find? conditions type) ∧
      (∀ time later, set { new with lastTransitionTime := time } later updated = (updated, false)) ∧
      ((conditions.map Condition.type).Nodup → (updated.map Condition.type).Nodup) ∧
      ∀ (other : Condition) (later : String), other.type ≠ new.type →
        let swapped := (set other later conditions).1
        (∀ type, find? (set other later updated).1 type = find? (set new now swapped).1 type) ∧
          (set new now swapped).2 = changed ∧
          (set other later updated).2 = (set other later conditions).2 := by
  intro updated changed
  have hupserts : Upserts new now conditions updated changed := upserts_set new now conditions
  have hfound : find? updated new.type = some (merged (find? conditions new.type) new now) :=
    find?_set_self new now conditions
  have hverdict := verdict_merged (find? conditions new.type) new now
  refine ⟨hupserts, hupserts.changed_iff, ?_, ?_, ?_, nodup_map_type_set, ?_⟩
  · rw [hfound, Option.map_some, hverdict]
  · intro type hne
    exact find?_set_of_ne new now conditions hne
  · intro time later
    exact set_eq_self later hfound hverdict
  · intro other later hne swapped
    exact ⟨find?_set_comm hne now later conditions, changed_set_set hne now later conditions,
      changed_set_set hne.symm later now conditions⟩

/-- The service stands in the list twice, and the first entry has its status changed. It is told apart
from the route, which has no entry yet, in either order. -/
theorem set_upserts_heldTwice :
    let absent : Condition :=
      ⟨.serviceAvailable, .false, "ServiceNotFound", "Service web not found", some "t0"⟩
    let stale : Condition := ⟨.serviceAvailable, .true, "ServiceReady", "Service old", none⟩
    let service : Condition := .ofVerdict .serviceAvailable ⟨.true, "ServiceReady", "Service web"⟩
    let route : Condition := .ofVerdict .routeAvailable ⟨.false, "RouteNotFound", "Route web"⟩
    let held := [absent, stale]
    let updated : List Condition :=
      [⟨.serviceAvailable, .true, "ServiceReady", "Service web", some "t1"⟩, stale]
    Upserts service "t1" held updated true ∧ set service "t2" updated = (updated, false) ∧
      (∀ type, find? (set route "t2" updated).1 type =
        find? (set service "t1" (set route "t2" held).1).1 type) ∧
      ((set route "t2" [absent]).1.map Condition.type).Nodup := by
  intro absent stale service route held updated
  obtain ⟨hupserts, _, _, _, hagain, _, htwo⟩ := set_upserts service "t1" held
  obtain ⟨hlookups, _, _⟩ := htwo route "t2" (by decide)
  obtain ⟨_, _, _, _, _, hdistinct, _⟩ := set_upserts route "t2" [absent]
  exact ⟨hupserts, hagain none "t2", hlookups, hdistinct (by decide)⟩

end ServerOperator.Conditions
