import ServerOperator.Resource.Condition

/-!
Lists of conditions as tables keyed by the type. Of entries with the same type the first one counts;
later ones are never looked at nor touched.
-/

namespace ServerOperator

/-- What an observation says about one aspect, apart from when it came to be. -/
structure Verdict where
  status : ConditionStatus
  reason : String
  message : String
deriving DecidableEq, Repr, Inhabited

def Condition.verdict (condition : Condition) : Verdict :=
  ⟨condition.status, condition.reason, condition.message⟩

def Condition.ofVerdict (type : ConditionType) (verdict : Verdict) : Condition :=
  ⟨type, verdict.status, verdict.reason, verdict.message, none⟩

namespace Conditions

def find? (conditions : List Condition) (type : ConditionType) : Option Condition :=
  List.find? (fun condition => condition.type = type) conditions

/-- When the new condition came to be: as it says itself, or now. -/
def since (new : Condition) (now : String) : Option String :=
  some (new.lastTransitionTime.getD now)

/-- An entry after a new condition of its type. The time of the last transition moves only with the
status. -/
def update (held new : Condition) (now : String) : Condition :=
  { held with
    status := new.status
    reason := new.reason
    message := new.message
    lastTransitionTime :=
      if held.status = new.status then held.lastTransitionTime else since new now }

/-- Sets the first entry of the new condition's type, or appends one, and tells whether that changed
anything. -/
def set (new : Condition) (now : String) : List Condition → List Condition × Bool
  | [] => ([{ new with lastTransitionTime := since new now }], true)
  | held :: rest =>
      if held.type = new.type then
        (update held new now :: rest, held.verdict != new.verdict)
      else
        let (later, changed) := set new now rest
        (held :: later, changed)

@[simp]
theorem type_update (held new : Condition) (now : String) :
    (update held new now).type = held.type := rfl

@[simp]
theorem verdict_update (held new : Condition) (now : String) :
    (update held new now).verdict = new.verdict := rfl

theorem find?_set_of_ne (new : Condition) (now : String) (conditions : List Condition)
    {type : ConditionType} (hne : type ≠ new.type) :
    find? (set new now conditions).1 type = find? conditions type := by
  induction conditions with
  | nil => simp [set, find?, Ne.symm hne]
  | cons held rest ih =>
      by_cases hheld : held.type = new.type
      · simp [set, find?, hheld, Ne.symm hne]
      · by_cases htype : held.type = type
        · simp [set, find?, htype, hne]
        · simpa [set, find?, hheld, htype] using ih

def setAll (observed : List Condition) (now : String) (conditions : List Condition) :
    List Condition :=
  observed.foldl (fun held new => (set new now held).1) conditions

end Conditions

end ServerOperator
