import Mathlib.Data.List.Nodup
import ServerOperator.Status.Overall

/-!
# Merging conditions into a list

Setting a condition decides what its type is looked up to, and leaves every other type alone. So a
list of conditions with different types can be merged in any state of the held list, and afterwards
each of the types is looked up to what the one condition of that type made of the entry before.
-/

namespace ServerOperator.Conditions

/-- The entry that a new condition makes of the one held under its type, if there is one. -/
def merged (held : Option Condition) (new : Condition) (now : String) : Condition :=
  match held with
  | some held => update held new now
  | none => { new with lastTransitionTime := since new now }

@[simp]
theorem verdict_merged (held : Option Condition) (new : Condition) (now : String) :
    (merged held new now).verdict = new.verdict := by
  cases held <;> rfl

theorem find?_set_self (new : Condition) (now : String) (conditions : List Condition) :
    find? (set new now conditions).1 new.type =
      some (merged (find? conditions new.type) new now) := by
  induction conditions with
  | nil => simp [set, find?, merged]
  | cons held rest ih =>
      by_cases hheld : held.type = new.type
      · simp [set, find?, hheld, merged]
      · simpa [set, find?, hheld] using ih

theorem find?_setAll_of_ne (observed : List Condition) (now : String)
    (conditions : List Condition) {type : ConditionType}
    (hne : ∀ new ∈ observed, type ≠ new.type) :
    find? (setAll observed now conditions) type = find? conditions type := by
  induction observed generalizing conditions with
  | nil => rfl
  | cons new rest ih =>
      change find? (setAll rest now (set new now conditions).1) type = _
      rw [ih _ fun later hlater => hne later (List.mem_cons_of_mem new hlater)]
      exact find?_set_of_ne new now conditions (hne new List.mem_cons_self)

/-- Of several conditions with different types each is merged as if it were the only one; of two with
one type, the second would be merged into what the first left. -/
theorem find?_setAll_of_mem {observed : List Condition} (now : String)
    (conditions : List Condition) (hdistinct : (observed.map Condition.type).Nodup)
    {new : Condition} (hmem : new ∈ observed) :
    find? (setAll observed now conditions) new.type =
      some (merged (find? conditions new.type) new now) := by
  induction observed generalizing conditions with
  | nil => cases hmem
  | cons first rest ih =>
      change find? (setAll rest now (set first now conditions).1) new.type = _
      rw [List.map_cons, List.nodup_cons] at hdistinct
      obtain ⟨hfirst, hrest⟩ := hdistinct
      rcases List.mem_cons.mp hmem with rfl | hlater
      · rw [find?_setAll_of_ne rest now _ ?_, find?_set_self]
        intro later hlater heq
        exact hfirst (heq ▸ List.mem_map_of_mem hlater)
      · have hne : new.type ≠ first.type := by
          intro heq
          exact hfirst (heq ▸ List.mem_map_of_mem hlater)
        rw [ih _ hrest hlater, find?_set_of_ne first now conditions hne]

/-! ### What is held already -/

theorem find?_cons (first : Condition) (rest : List Condition) (type : ConditionType) :
    find? (first :: rest) type = if first.type = type then some first else find? rest type := by
  by_cases hfirst : first.type = type <;> simp [find?, hfirst]

theorem update_eq_self {held new : Condition} (now : String) (hverdict : held.verdict = new.verdict) :
    update held new now = held := by
  have hstatus : held.status = new.status := congrArg Verdict.status hverdict
  have hreason : held.reason = new.reason := congrArg Verdict.reason hverdict
  have hmessage : held.message = new.message := congrArg Verdict.message hverdict
  unfold update
  rw [if_pos hstatus, ← hstatus, ← hreason, ← hmessage]

/-- A condition that says what the first entry of its type says changes nothing. -/
theorem set_eq_self {new held : Condition} (now : String) {conditions : List Condition}
    (hfind : find? conditions new.type = some held) (hverdict : held.verdict = new.verdict) :
    set new now conditions = (conditions, false) := by
  induction conditions with
  | nil => cases hfind
  | cons first rest ih =>
      rw [find?_cons] at hfind
      unfold set
      by_cases hfirst : first.type = new.type
      · rw [if_pos hfirst] at hfind
        obtain rfl : first = held := Option.some.inj hfind
        rw [if_pos hfirst, update_eq_self now hverdict, hverdict, bne_self_eq_false]
      · rw [if_neg hfirst] at hfind
        simp only [if_neg hfirst, ih hfind]

theorem setAll_eq_self {observed : List Condition} (now : String) {conditions : List Condition}
    (hheld : ∀ new ∈ observed, ∃ held, find? conditions new.type = some held ∧
      held.verdict = new.verdict) :
    setAll observed now conditions = conditions := by
  induction observed with
  | nil => rfl
  | cons new rest ih =>
      rw [List.forall_mem_cons] at hheld
      obtain ⟨⟨held, hfind, hverdict⟩, hrest⟩ := hheld
      change setAll rest now (set new now conditions).1 = conditions
      rw [set_eq_self now hfind hverdict]
      exact ih hrest

/-! ### Where the entries stand -/

theorem map_type_set (new : Condition) (now : String) (conditions : List Condition) :
    (set new now conditions).1.map Condition.type =
      if new.type ∈ conditions.map Condition.type then conditions.map Condition.type
      else conditions.map Condition.type ++ [new.type] := by
  induction conditions with
  | nil => simp [set]
  | cons held rest ih =>
      by_cases hheld : held.type = new.type
      · simp [set, hheld]
      · have hmem : new.type ∈ (held :: rest).map Condition.type ↔
            new.type ∈ rest.map Condition.type := by
          rw [List.map_cons, List.mem_cons]
          exact or_iff_right (Ne.symm hheld)
        simp only [set, if_neg hheld, List.map_cons] at ih ⊢
        rw [ih]
        simp only [List.map_cons] at hmem
        simp only [hmem]
        split <;> rfl

theorem map_type_setAll (observed : List Condition) (now : String)
    (conditions : List Condition) :
    (setAll observed now conditions).map Condition.type =
      (observed.map Condition.type).foldl
        (fun types type => if type ∈ types then types else types ++ [type])
        (conditions.map Condition.type) := by
  induction observed generalizing conditions with
  | nil => rfl
  | cons new rest ih =>
      change (setAll rest now (set new now conditions).1).map Condition.type = _
      rw [ih, map_type_set]
      rfl

/-- The list with the entry at the first place of a type replaced, or with a new entry at its end. -/
def upserted (new : Condition) (now : String) (conditions : List Condition) : List Condition :=
  match conditions.findIdx? fun held => held.type = new.type with
  | some place => conditions.modify place fun held => update held new now
  | none => conditions ++ [{ new with lastTransitionTime := since new now }]

theorem set_eq_upserted (new : Condition) (now : String) (conditions : List Condition) :
    (set new now conditions).1 = upserted new now conditions := by
  induction conditions with
  | nil => simp [set, upserted]
  | cons held rest ih =>
      by_cases hheld : held.type = new.type
      · simp [set, upserted, List.findIdx?_cons, hheld]
      · simp only [set, if_neg hheld]
        rw [ih]
        unfold upserted
        rw [List.findIdx?_cons]
        simp only [hheld, decide_false, Bool.false_eq_true, if_false]
        cases List.findIdx? (fun held => decide (held.type = new.type)) rest <;> simp

end ServerOperator.Conditions
