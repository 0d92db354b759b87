/-!
Queues of what is to be done and when. Each thing waits at most once, for the earliest of the times
that it was put in for.
-/

namespace ServerOperator.Controller

abbrev Queue (α : Type) := List (α × Nat)

namespace Queue

variable {α : Type} [DecidableEq α]

def items (queue : Queue α) : List α :=
  queue.map Prod.fst

/-- Puts a thing in for a time. What waits for an earlier time stays as it is. -/
def schedule (item : α) (time : Nat) : Queue α → Queue α
  | [] => [(item, time)]
  | (held, due) :: rest =>
      if held = item then (held, min due time) :: rest else (held, due) :: schedule item time rest

def remove (item : α) (queue : Queue α) : Queue α :=
  queue.filter fun entry => entry.1 ≠ item

def due? (queue : Queue α) (item : α) : Option Nat :=
  queue.lookup item

@[simp]
theorem due?_schedule_self (queue : Queue α) (item : α) (time : Nat) :
    (queue.schedule item time).due? item = some ((queue.due? item).elim time (min time)) := by
  induction queue with
  | nil => simp [schedule, due?]
  | cons entry rest ih =>
      obtain ⟨held, due⟩ := entry
      by_cases hheld : held = item
      · simp [schedule, due?, hheld, Nat.min_comm]
      · have hbeq : (item == held) = false := beq_eq_false_iff_ne.mpr (Ne.symm hheld)
        simpa [schedule, due?, hheld, List.lookup_cons, hbeq] using ih

theorem due?_schedule_of_ne (queue : Queue α) {item other : α} (time : Nat)
    (hne : other ≠ item) : (queue.schedule item time).due? other = queue.due? other := by
  induction queue with
  | nil => simp [schedule, due?, List.lookup_cons, beq_eq_false_iff_ne.mpr hne]
  | cons entry rest ih =>
      obtain ⟨held, due⟩ := entry
      by_cases hheld : held = item
      · subst hheld
        simp [schedule, due?, List.lookup_cons, beq_eq_false_iff_ne.mpr hne]
      · by_cases hother : other = held
        · simp [schedule, due?, hheld, hother]
        · simpa [schedule, due?, hheld, hother, List.lookup_cons,
            beq_eq_false_iff_ne.mpr hother] using ih

theorem due?_remove_of_ne (queue : Queue α) {item other : α} (hne : other ≠ item) :
    (queue.remove item).due? other = queue.due? other := by
  unfold remove due?
  induction queue with
  | nil => rfl
  | cons entry rest ih =>
      obtain ⟨held, due⟩ := entry
      by_cases hheld : held = item
      · subst hheld
        simpa [List.lookup_cons, beq_eq_false_iff_ne.mpr hne] using ih
      · by_cases hother : other = held
        · simp [hheld, hother]
        · simpa [hheld, List.lookup_cons, beq_eq_false_iff_ne.mpr hother] using ih

theorem due?_of_mem {queue : Queue α} (hdistinct : queue.items.Nodup) {item : α} {time : Nat}
    (hmem : (item, time) ∈ queue) : queue.due? item = some time := by
  unfold due?
  induction queue with
  | nil => cases hmem
  | cons entry rest ih =>
      obtain ⟨held, due⟩ := entry
      obtain ⟨hheld, hrest⟩ := List.nodup_cons.mp hdistinct
      rcases List.mem_cons.mp hmem with hfirst | hlater
      · cases hfirst
        exact List.lookup_cons_self
      · have hne : item ≠ held := by
          rintro rfl
          exact hheld (List.mem_map.mpr ⟨_, hlater, rfl⟩)
        rw [List.lookup_cons, beq_eq_false_iff_ne.mpr hne]
        exact ih hrest hlater

theorem mem_items_schedule (queue : Queue α) {item other : α} (time : Nat) :
    other ∈ (queue.schedule item time).items ↔ other = item ∨ other ∈ queue.items := by
  induction queue with
  | nil => simp [schedule, items]
  | cons entry rest ih =>
      obtain ⟨held, due⟩ := entry
      unfold schedule
      split
      · rename_i hheld
        subst hheld
        simp [items]
      · have hcons (queue : Queue α) :
            other ∈ items ((held, due) :: queue) ↔ other = held ∨ other ∈ queue.items :=
          List.mem_cons
        rw [hcons, hcons, ih]
        exact or_left_comm

theorem nodup_items_schedule {queue : Queue α} (item : α) (time : Nat)
    (hdistinct : queue.items.Nodup) : (queue.schedule item time).items.Nodup := by
  induction queue with
  | nil => simp [schedule, items]
  | cons entry rest ih =>
      obtain ⟨held, due⟩ := entry
      obtain ⟨hheld, hrest⟩ := List.nodup_cons.mp hdistinct
      unfold schedule
      split
      · exact List.nodup_cons.mpr ⟨hheld, hrest⟩
      · rename_i hne
        refine List.nodup_cons.mpr ⟨?_, ih hrest⟩
        intro hmem
        rcases (mem_items_schedule rest time).mp hmem with heq | hlater
        · exact hne heq
        · exact hheld hlater

theorem nodup_items_remove {queue : Queue α} (item : α) (hdistinct : queue.items.Nodup) :
    (queue.remove item).items.Nodup :=
  hdistinct.sublist (List.filter_sublist.map Prod.fst)

/-- Something may have been put into a queue; nothing was taken out, and nothing was put off. -/
structure Grows (before after : Queue α) : Prop where
  nodup : before.items.Nodup → after.items.Nodup
  due : ∀ item time, before.due? item = some time →
    ∃ earlier ≤ time, after.due? item = some earlier

theorem Grows.refl (queue : Queue α) : queue.Grows queue :=
  ⟨id, fun _ time hdue => ⟨time, Nat.le_refl time, hdue⟩⟩

theorem Grows.trans {before between after : Queue α} (hfirst : before.Grows between)
    (hsecond : between.Grows after) : before.Grows after := by
  refine ⟨fun hdistinct => hsecond.nodup (hfirst.nodup hdistinct), ?_⟩
  intro item time hdue
  obtain ⟨middle, hmiddle, hbetween⟩ := hfirst.due item time hdue
  obtain ⟨earlier, hearlier, hafter⟩ := hsecond.due item middle hbetween
  exact ⟨earlier, Nat.le_trans hearlier hmiddle, hafter⟩

theorem grows_schedule (queue : Queue α) (item : α) (time : Nat) :
    queue.Grows (queue.schedule item time) := by
  refine ⟨nodup_items_schedule item time, ?_⟩
  intro other due hdue
  by_cases hother : other = item
  · subst hother
    refine ⟨min time due, Nat.min_le_right time due, ?_⟩
    rw [due?_schedule_self, hdue]
    rfl
  · refine ⟨due, Nat.le_refl due, ?_⟩
    rw [due?_schedule_of_ne queue time hother, hdue]

end Queue

end ServerOperator.Controller
