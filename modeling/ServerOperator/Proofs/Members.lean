import Mathlib.Data.String.Basic
import ServerOperator.Json.MergePatch

/-!
# Members by name

What a list of members holds under a name once an entry is put in or taken out, and the ascending
order that insertion keeps.
-/

namespace ServerOperator.Json

variable {name other : String}

theorem lookup_insertSorted_self (name : String) (value : Json) (members : List (String × Json)) :
    (insertSorted name value members).lookup name = some value := by
  induction members with
  | nil => exact List.lookup_cons_self
  | cons member rest ih =>
      obtain ⟨held, old⟩ := member
      unfold insertSorted
      by_cases hname : name = held
      · rw [if_pos hname]
        exact List.lookup_cons_self
      · rw [if_neg hname]
        by_cases hbefore : name < held
        · rw [if_pos hbefore]
          exact List.lookup_cons_self
        · rw [if_neg hbefore, List.lookup_cons, beq_eq_false_iff_ne.mpr hname]
          exact ih

theorem lookup_insertSorted_of_ne (hne : other ≠ name) (value : Json)
    (members : List (String × Json)) :
    (insertSorted name value members).lookup other = members.lookup other := by
  have hskip (rest : List (String × Json)) :
      List.lookup other ((name, value) :: rest) = rest.lookup other := by
    rw [List.lookup_cons, beq_eq_false_iff_ne.mpr hne]
  induction members with
  | nil => exact hskip []
  | cons member rest ih =>
      obtain ⟨held, old⟩ := member
      unfold insertSorted
      by_cases hname : name = held
      · subst hname
        rw [if_pos rfl, hskip, List.lookup_cons, beq_eq_false_iff_ne.mpr hne]
      · rw [if_neg hname]
        by_cases hbefore : name < held
        · rw [if_pos hbefore, hskip]
        · rw [if_neg hbefore, List.lookup_cons, ih, List.lookup_cons]

theorem lookup_removeMember_of_ne (hne : other ≠ name) (members : List (String × Json)) :
    (removeMember name members).lookup other = members.lookup other := by
  unfold removeMember
  induction members with
  | nil => rfl
  | cons member rest ih =>
      obtain ⟨held, old⟩ := member
      by_cases hheld : held = name
      · subst hheld
        rw [List.filter_cons_of_neg (by simp), ih, List.lookup_cons, beq_eq_false_iff_ne.mpr hne]
      · rw [List.filter_cons_of_pos (by simpa using hheld), List.lookup_cons, ih,
          List.lookup_cons]

theorem ne_of_mem_removeMember {members : List (String × Json)} {member : String × Json}
    (hmem : member ∈ removeMember name members) : member.1 ≠ name := by
  simpa using (List.mem_filter.mp hmem).2

/-- A member of which nothing else has the name is put in front of all that comes after it. -/
theorem insertSorted_eq_append (value : Json) {members : List (String × Json)}
    (hfresh : ∀ member ∈ members, member.1 ≠ name) :
    ∃ before after, members = before ++ after ∧
      insertSorted name value members = before ++ (name, value) :: after := by
  induction members with
  | nil => exact ⟨[], [], rfl, rfl⟩
  | cons member rest ih =>
      obtain ⟨held, old⟩ := member
      rw [List.forall_mem_cons] at hfresh
      unfold insertSorted
      rw [if_neg (Ne.symm hfresh.1)]
      by_cases hbefore : name < held
      · rw [if_pos hbefore]
        exact ⟨[], (held, old) :: rest, rfl, rfl⟩
      · obtain ⟨before, after, hrest, hinserted⟩ := ih hfresh.2
        rw [if_neg hbefore, hinserted]
        exact ⟨(held, old) :: before, after, congrArg _ hrest, rfl⟩

theorem mem_names_insertSorted {members : List (String × Json)} (value : Json)
    (hmem : other ∈ members.map Prod.fst) :
    other ∈ (insertSorted name value (removeMember name members)).map Prod.fst := by
  have hfresh : ∀ member ∈ removeMember name members, member.1 ≠ name :=
    fun _ hmember => ne_of_mem_removeMember hmember
  obtain ⟨before, after, hsplit, hinserted⟩ := insertSorted_eq_append value hfresh
  rw [hinserted, List.map_append, List.map_cons]
  by_cases hother : other = name
  · subst hother
    exact List.mem_append_right _ List.mem_cons_self
  · obtain ⟨member, hmember, rfl⟩ := List.mem_map.mp hmem
    have hkept : member ∈ before ++ after := by
      rw [← hsplit]
      exact List.mem_filter.mpr ⟨hmember, by simpa using hother⟩
    rcases List.mem_append.mp hkept with hbefore | hafter
    · exact List.mem_append_left _ (List.mem_map_of_mem hbefore)
    · exact List.mem_append_right _ (List.mem_cons_of_mem name (List.mem_map_of_mem hafter))

/-! ### Ascending order -/

def Ascending (entries : List (String × α)) : Prop :=
  entries.Pairwise fun first second => first.1 < second.1

section Entries

variable {name : String} {value : α} {entries : List (String × α)}

theorem eq_or_mem_of_mem_insertSorted {entry : String × α}
    (hmem : entry ∈ insertSorted name value entries) : entry = (name, value) ∨ entry ∈ entries := by
  induction entries with
  | nil => exact .inl (List.mem_singleton.mp hmem)
  | cons first rest ih =>
      unfold insertSorted at hmem
      split_ifs at hmem with hsame hbefore
      · exact (List.mem_cons.mp hmem).imp_right (List.mem_cons_of_mem first)
      · exact List.mem_cons.mp hmem
      · rcases List.mem_cons.mp hmem with hfirst | hrest
        · exact .inr (hfirst ▸ List.mem_cons_self)
        · exact (ih hrest).imp_right (List.mem_cons_of_mem first)

theorem Ascending.insertSorted (hascending : Ascending entries) :
    Ascending (insertSorted name value entries) := by
  induction entries with
  | nil => exact List.pairwise_singleton _ _
  | cons first rest ih =>
      obtain ⟨hfirst, hrest⟩ := List.pairwise_cons.mp hascending
      unfold Json.insertSorted
      split_ifs with hsame hbefore
      · exact List.pairwise_cons.mpr ⟨hsame ▸ hfirst, hrest⟩
      · refine List.pairwise_cons.mpr ⟨fun entry hentry => ?_, hascending⟩
        rcases List.mem_cons.mp hentry with rfl | hlater
        · exact hbefore
        · exact hbefore.trans (hfirst entry hlater)
      · refine List.pairwise_cons.mpr ⟨fun entry hentry => ?_, ih hrest⟩
        rcases eq_or_mem_of_mem_insertSorted hentry with rfl | hheld
        · exact lt_of_le_of_ne (not_lt.mp hbefore) (Ne.symm hsame)
        · exact hfirst entry hheld

theorem insertSorted_eq_append_of_lt (hlast : ∀ entry ∈ entries, entry.1 < name) :
    insertSorted name value entries = entries ++ [(name, value)] := by
  induction entries with
  | nil => rfl
  | cons first rest ih =>
      obtain ⟨hfirst, hrest⟩ := List.forall_mem_cons.mp hlast
      unfold insertSorted
      rw [if_neg hfirst.ne', if_neg hfirst.asymm, ih hrest]
      rfl

end Entries

end ServerOperator.Json
