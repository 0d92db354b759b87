import ServerOperator.Resource.Server

/-!
# Reading what was written

A decoder inverts an encoding if it reads every value back from its document. A record is read
member by member, and members that are no fields do not matter.
-/

namespace ServerOperator

theorem exists_of_bind_eq_ok {first : Except ε α} {rest : α → Except ε β} {last : β}
    (hbind : (first >>= rest) = .ok last) :
    ∃ middle, first = .ok middle ∧ rest middle = .ok last := by
  cases first with
  | error fault => cases hbind
  | ok middle => exact ⟨middle, rfl, hbind⟩

theorem exists_of_map_eq_ok {first : Except ε α} {change : α → β} {last : β}
    (hmap : first.map change = .ok last) : ∃ held, first = .ok held ∧ change held = last := by
  cases first with
  | error fault => cases hmap
  | ok held => exact ⟨held, rfl, Except.ok.inj hmap⟩

/-- A record after a value was taken for a field. -/
def Field.apply (field : Field σ) (value : Json) (record : σ) : Except Fault σ := do
  let change ← field.step.tree value
  change record

theorem Field.apply_mk (name : String) (mayBeAbsent mayBeLeftOff : Bool) (decoder : Decoder α)
    (set : α → σ → σ) (value : Json) (record : σ) :
    (Field.mk name mayBeAbsent mayBeLeftOff
        (decoder.map fun value record => .ok (set value record))).apply value record =
      (decoder.tree value).map fun held => set held record := by
  change ((decoder.tree value).map _ >>= _) = _
  cases decoder.tree value <;> rfl

/-- Whatever value is taken for the field, a record of the kind stays one. -/
def Field.Keeps (field : Field σ) (P : σ → Prop) : Prop :=
  ∀ {value record changed}, field.apply value record = .ok changed → P record → P changed

theorem Field.keeps_mk {P : σ → Prop} {name : String} {mayBeAbsent mayBeLeftOff : Bool}
    {decoder : Decoder α} {set : α → σ → σ}
    (hset : ∀ {value held record}, decoder.tree value = .ok held → P record → P (set held record)) :
    (Field.mk name mayBeAbsent mayBeLeftOff
      (decoder.map fun value record => .ok (set value record))).Keeps P := by
  intro value record changed happly hrecord
  rw [apply_mk] at happly
  obtain ⟨held, hread, rfl⟩ := exists_of_map_eq_ok happly
  exact hset hread hrecord

namespace Decoder

open Json

def Inverts (decoder : Decoder α) (encode : α → Json) : Prop :=
  ∀ value, decoder.tree (encode value) = .ok value

theorem Inverts.of_mem {decoder : Decoder α} {encode : α → Json} (hinverts : decoder.Inverts encode)
    {written : Option α} : ∀ value ∈ written, decoder.tree (encode value) = .ok value :=
  fun value _ => hinverts value

theorem Inverts.mapM {decoder : Decoder α} {encode : α → Json} (hinverts : decoder.Inverts encode)
    (values : List α) : (values.map encode).mapM decoder.tree = .ok values := by
  induction values with
  | nil => rfl
  | cons value rest ih =>
      rw [List.map_cons, List.mapM_cons, hinverts value, ih]
      rfl

theorem Inverts.list {decoder : Decoder α} {encode : α → Json} (hinverts : decoder.Inverts encode) :
    decoder.list.Inverts fun values => array (values.map encode) :=
  fun values => hinverts.mapM values

theorem tree_nullable {decoder : Decoder α} {document : Json} (hpresent : document ≠ .null) :
    decoder.nullable.tree document = (decoder.tree document).map some := by
  cases document with
  | null => exact absurd rfl hpresent
  | _ => rfl

section Members

variable {fields : List (Field σ)} {record : σ} {name : String} {value : Json}
  {rest : List (String × Json)}

theorem mem_of_field? {field : Field σ} (hfield : field? fields name = some field) :
    field ∈ fields ∧ field.name = name := by
  unfold field? at hfield
  exact ⟨List.mem_of_find?_eq_some hfield, by simpa using List.find?_some hfield⟩

theorem takeMembers_cons_of_unknown (hunknown : field? fields name = none) :
    takeMembers fields record ((name, value) :: rest) = takeMembers fields record rest := by
  unfold takeMembers
  rw [List.foldlM_cons, hunknown]
  rfl

theorem takeMembers_cons_of_known {field : Field σ} (hfield : field? fields name = some field) :
    takeMembers fields record ((name, value) :: rest) =
      field.apply value record >>= fun changed => takeMembers fields changed rest := by
  unfold takeMembers
  rw [List.foldlM_cons, hfield]
  rfl

theorem takeMembers_filter (members : List (String × Json)) :
    takeMembers fields record (members.filter fun member => (field? fields member.1).isSome) =
      takeMembers fields record members := by
  induction members generalizing record with
  | nil => rfl
  | cons member rest ih =>
      obtain ⟨name, value⟩ := member
      cases hfield : field? fields name with
      | none =>
          rw [List.filter_cons_of_neg (by simp [hfield]), takeMembers_cons_of_unknown hfield, ih]
      | some field =>
          rw [List.filter_cons_of_pos (by simp [hfield]), takeMembers_cons_of_known hfield,
            takeMembers_cons_of_known hfield]
          simp only [ih]

theorem takeMembers_append (first second : List (String × Json)) :
    takeMembers fields record (first ++ second) =
      takeMembers fields record first >>= fun changed => takeMembers fields changed second :=
  List.foldlM_append

theorem takeItems_cons {form : String} {count : Nat} {field : Field σ} {item : Json}
    {items : List Json} :
    takeItems form count record (field :: fields) (item :: items) =
      field.apply item record >>= fun changed =>
        takeItems form (count + 1) changed fields items := by
  change (field.step.tree item >>= _) = (field.step.tree item >>= _) >>= _
  cases field.step.tree item <;> rfl

/-! ### Members that are written for a field -/

variable {absent leftOff : Bool} {decoder : Decoder α} {encode : α → Json}

theorem takeMembers_member {set : α → σ → σ}
    (hfield : field? fields name =
      some ⟨name, absent, leftOff, decoder.map fun value record => .ok (set value record)⟩)
    {written : α} (hwritten : decoder.tree value = .ok written) :
    takeMembers fields record ((name, value) :: rest) =
      takeMembers fields (set written record) rest := by
  rw [takeMembers_cons_of_known hfield, Field.apply_mk, hwritten]
  rfl

theorem takeMembers_optionalMember {set : Option α → σ → σ}
    (hfield : field? fields name =
      some ⟨name, absent, leftOff, decoder.nullable.map fun value record => .ok (set value record)⟩)
    (hnone : set none record = record) {written : Option α}
    (hwritten : ∀ value ∈ written, decoder.tree (encode value) = .ok value)
    (hpresent : ∀ value, encode value ≠ .null) :
    takeMembers fields record (optionalMember name encode written ++ rest) =
      takeMembers fields (set written record) rest := by
  cases written with
  | none =>
      rw [hnone]
      rfl
  | some value =>
      refine takeMembers_member hfield ?_
      rw [tree_nullable (hpresent value), hwritten value rfl]
      rfl

theorem takeMembers_listMember {set : List α → σ → σ}
    (hfield : field? fields name =
      some ⟨name, absent, leftOff, decoder.list.map fun value record => .ok (set value record)⟩)
    (hnil : set [] record = record) (hinverts : decoder.Inverts encode) (written : List α) :
    takeMembers fields record (listMember name encode written ++ rest) =
      takeMembers fields (set written record) rest := by
  cases written with
  | nil =>
      rw [hnil]
      rfl
  | cons value others => exact takeMembers_member hfield (hinverts.list (value :: others))

/-! ### Records -/

theorem takeMembers_eq_self {members : List (String × Json)}
    (hunknown : ∀ member ∈ members, field? fields member.1 = none) :
    takeMembers fields record members = .ok record := by
  rw [← takeMembers_filter, List.filter_eq_nil_iff.mpr]
  · rfl
  · intro member hmem
    simp [hunknown member hmem]

theorem checkPresent_eq_ok_iff {present : List String} :
    checkPresent fields present = .ok () ↔
      ∀ field ∈ fields, field.mayBeAbsent = false → field.name ∈ present := by
  have hmissing : checkPresent fields present = .ok () ↔ firstMissing? fields present = none := by
    unfold checkPresent
    cases firstMissing? fields present with
    | none => exact iff_of_true rfl rfl
    | some missing => exact iff_of_false nofun nofun
  rw [hmissing, firstMissing?, Option.map_eq_none_iff, List.find?_eq_none]
  refine forall₂_congr fun field _ => ?_
  cases field.mayBeAbsent <;> simp

theorem record_object (strict : Bool) (title : String) (members : List (String × Json)) :
    (Decoder.record strict title record fields).tree (object members) =
      takeMembers fields record members >>= fun taken =>
        checkPresent fields (members.map Prod.fst) >>= fun _ => .ok taken :=
  rfl

theorem record_array (title : String) (items : List Json) :
    (Decoder.record true title record fields).tree (array items) =
      takeItems (listForm title fields) 0 record fields items >>= fun result =>
        if result.2.isEmpty then .ok result.1
        else .error (.invalidLength items.length "fewer elements in array") :=
  rfl

theorem record_object_eq_ok_iff {strict : Bool} {title : String} {members : List (String × Json)}
    {taken : σ} :
    (Decoder.record strict title record fields).tree (object members) = .ok taken ↔
      takeMembers fields record members = .ok taken ∧
        ∀ field ∈ fields, field.mayBeAbsent = false → field.name ∈ members.map Prod.fst := by
  rw [← checkPresent_eq_ok_iff, record_object]
  cases takeMembers fields record members with
  | error fault => exact iff_of_false nofun nofun
  | ok first =>
      cases checkPresent fields (members.map Prod.fst) with
      | error fault => exact iff_of_false nofun nofun
      | ok done => exact (and_iff_left rfl).symm

end Members

/-! ### What a record keeps -/

theorem foldlM_keeps {P : β → Prop} {step : β → α → Except Fault β} {items : List α}
    (hstep : ∀ item ∈ items, ∀ {before after}, step before item = .ok after → P before → P after)
    {first last : β} (hfirst : P first) (hfold : items.foldlM step first = .ok last) : P last := by
  induction items generalizing first with
  | nil =>
      cases hfold
      exact hfirst
  | cons item rest ih =>
      rw [List.forall_mem_cons] at hstep
      rw [List.foldlM_cons] at hfold
      obtain ⟨next, hitem, hrest⟩ := exists_of_bind_eq_ok hfold
      exact ih hstep.2 (hstep.1 hitem hfirst) hrest

variable {P : σ → Prop} {fields : List (Field σ)} {initial taken : σ}

theorem takeItems_keeps (hfields : ∀ field ∈ fields, field.Keeps P) {form : String} {count : Nat}
    {items rest : List Json} (hinitial : P initial)
    (htake : takeItems form count initial fields items = .ok (taken, rest)) : P taken := by
  induction fields generalizing count initial items with
  | nil =>
      cases htake
      exact hinitial
  | cons field others ih =>
      rw [List.forall_mem_cons] at hfields
      cases items with
      | nil =>
          unfold takeItems at htake
          by_cases hleftOff : field.mayBeLeftOff
          · rw [if_pos hleftOff] at htake
            exact ih hfields.2 hinitial htake
          · rw [if_neg hleftOff] at htake
            cases htake
      | cons item items =>
          rw [takeItems_cons] at htake
          obtain ⟨changed, hchange, hrest⟩ := exists_of_bind_eq_ok htake
          exact ih hfields.2 (hfields.1 hchange hinitial) hrest

/-- What holds of the initial record and stays with every field holds of what is read. -/
theorem record_keeps (hfields : ∀ field ∈ fields, field.Keeps P) (hinitial : P initial)
    {strict : Bool} {title : String} {document : Json}
    (hread : (Decoder.record strict title initial fields).tree document = .ok taken) : P taken := by
  cases document with
  | object members =>
      refine foldlM_keeps (fun member _ before after hmember => ?_) hinitial
        (record_object_eq_ok_iff.mp hread).1
      cases hfield : field? fields member.1 with
      | none =>
          rw [hfield] at hmember
          cases hmember
          exact id
      | some field =>
          rw [hfield] at hmember
          exact hfields field (mem_of_field? hfield).1 hmember
  | array items =>
      cases strict with
      | false => cases hread
      | true =>
          rw [record_array] at hread
          obtain ⟨⟨record, rest⟩, htake, hend⟩ := exists_of_bind_eq_ok hread
          split at hend
          · cases hend
            exact takeItems_keeps hfields hinitial htake
          · cases hend
  | _ => cases hread

end Decoder

theorem Condition.inverts_toJson : Condition.decoder.Inverts Condition.toJson := by
  rintro ⟨type, status, reason, message, _ | time⟩
  · cases type <;> cases status <;> rfl
  · cases type <;> cases status <;> rfl

end ServerOperator
