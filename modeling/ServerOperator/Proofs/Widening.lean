import ServerOperator.Proofs.Decoding

/-!
# Unknown members

Wherever a document has the object of a strict record, a member that is no field of it can be added,
and the document is read as before. The record may itself be a field of another one, an item of a
list, or the value of something optional. Lenient records are left out: they are the cluster's own,
and have more fields than those that are read here.
-/

namespace ServerOperator.Decoder

open Json

/-- The second document is the first one with an unknown member added to one of its records. -/
inductive Widens : {α : Type} → Decoder α → Json → Json → Prop where
  | unknown {title : String} {initial : σ} {fields : List (Field σ)}
      (before after : List (String × Json)) {name : String} (value : Json)
      (hunknown : field? fields name = none) :
      Widens (.record true title initial fields) (object (before ++ after))
        (object (before ++ (name, value) :: after))
  | member {title : String} {initial : σ} {fields : List (Field σ)} {field : Field σ}
      (before after : List (String × Json)) {name : String} {narrow wide : Json}
      (hfield : field? fields name = some field) (hwidens : Widens field.step narrow wide) :
      Widens (.record true title initial fields) (object (before ++ (name, narrow) :: after))
        (object (before ++ (name, wide) :: after))
  | position {title : String} {initial : σ} {fields : List (Field σ)} {field : Field σ}
      (before after : List Json) {narrow wide : Json}
      (hfield : fields[before.length]? = some field) (hwidens : Widens field.step narrow wide) :
      Widens (.record true title initial fields) (array (before ++ narrow :: after))
        (array (before ++ wide :: after))
  | item {decoder : Decoder α} (before after : List Json) {narrow wide : Json}
      (hwidens : Widens decoder narrow wide) :
      Widens decoder.list (array (before ++ narrow :: after)) (array (before ++ wide :: after))
  | nullable {decoder : Decoder α} {narrow wide : Json} (hwidens : Widens decoder narrow wide) :
      Widens decoder.nullable narrow wide
  | map {decoder : Decoder α} (change : α → β) {narrow wide : Json}
      (hwidens : Widens decoder narrow wide) : Widens (decoder.map change) narrow wide

variable {fields : List (Field σ)} {field : Field σ} {name : String} {narrow wide : Json}

theorem firstMissing?_congr {present others : List String}
    (hsame : ∀ field ∈ fields, field.name ∈ present ↔ field.name ∈ others) :
    firstMissing? fields present = firstMissing? fields others := by
  unfold firstMissing?
  congr 1
  induction fields with
  | nil => rfl
  | cons first rest ih =>
      obtain ⟨hfirst, hrest⟩ := List.forall_mem_cons.mp hsame
      have hcontains : present.contains first.name = others.contains first.name := by
        simpa using hfirst
      rw [List.find?_cons, List.find?_cons, hcontains, ih hrest]

theorem ne_of_field?_eq_none (hunknown : field? fields name = none) :
    ∀ field ∈ fields, field.name ≠ name := by
  simpa [field?] using hunknown

theorem apply_congr (hsame : field.step.tree wide = field.step.tree narrow) (record : σ) :
    field.apply wide record = field.apply narrow record := by
  unfold Field.apply
  rw [hsame]

theorem takeItems_congr (hsame : field.step.tree wide = field.step.tree narrow)
    {before : List Json} (hfield : fields[before.length]? = some field) (after : List Json)
    (form : String) (count : Nat) (record : σ) :
    takeItems form count record fields (before ++ wide :: after) =
      takeItems form count record fields (before ++ narrow :: after) := by
  induction before generalizing fields count record with
  | nil =>
      cases fields with
      | nil => cases hfield
      | cons first others =>
          obtain rfl : first = field := Option.some.inj hfield
          rw [List.nil_append, List.nil_append, takeItems_cons, takeItems_cons,
            apply_congr hsame]
  | cons item rest ih =>
      cases fields with
      | nil => cases hfield
      | cons first others =>
          have hrest : others[rest.length]? = some field := by simpa using hfield
          rw [List.cons_append, List.cons_append, takeItems_cons, takeItems_cons]
          simp only [ih hrest]

theorem Widens.ne_null {decoder : Decoder α} (hwidens : Widens decoder narrow wide) :
    narrow ≠ .null ∧ wide ≠ .null := by
  induction hwidens with
  | unknown => exact ⟨nofun, nofun⟩
  | member => exact ⟨nofun, nofun⟩
  | position => exact ⟨nofun, nofun⟩
  | item => exact ⟨nofun, nofun⟩
  | nullable _ ih => exact ih
  | map _ _ ih => exact ih

theorem Widens.tree_eq {decoder : Decoder α} (hwidens : Widens decoder narrow wide) :
    decoder.tree wide = decoder.tree narrow := by
  induction hwidens with
  | @unknown σ title initial fields before after name value hunknown =>
      have htake : takeMembers fields initial (before ++ (name, value) :: after) =
          takeMembers fields initial (before ++ after) := by
        rw [takeMembers_append, takeMembers_append]
        simp only [takeMembers_cons_of_unknown hunknown]
      have hmissing : firstMissing? fields ((before ++ (name, value) :: after).map Prod.fst) =
          firstMissing? fields ((before ++ after).map Prod.fst) := by
        refine firstMissing?_congr fun field hmem => ?_
        simp [ne_of_field?_eq_none hunknown field hmem]
      rw [record_object, record_object, htake, checkPresent, hmissing]
      rfl
  | @member σ title initial fields field before after name narrow wide hfield hwidens ih =>
      have htake : takeMembers fields initial (before ++ (name, wide) :: after) =
          takeMembers fields initial (before ++ (name, narrow) :: after) := by
        rw [takeMembers_append, takeMembers_append]
        simp only [takeMembers_cons_of_known hfield, apply_congr ih]
      have hnames : (before ++ (name, wide) :: after).map Prod.fst =
          (before ++ (name, narrow) :: after).map Prod.fst := by simp
      rw [record_object, record_object, htake, hnames]
  | @position σ title initial fields field before after narrow wide hfield hwidens ih =>
      have hlength : (before ++ wide :: after).length = (before ++ narrow :: after).length := by
        simp
      rw [record_array, record_array, takeItems_congr ih hfield, hlength]
  | item before after hwidens ih =>
      change List.mapM _ _ = List.mapM _ _
      rw [List.mapM_append, List.mapM_append, List.mapM_cons, List.mapM_cons, ih]
  | nullable hwidens ih =>
      obtain ⟨hnarrow, hwide⟩ := hwidens.ne_null
      rw [tree_nullable hnarrow, tree_nullable hwide, ih]
  | map change hwidens ih => exact congrArg (Except.map change) ih

end ServerOperator.Decoder
