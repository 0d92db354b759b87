import ServerOperator.Json.Pointer
import ServerOperator.Proofs.Decoding
import ServerOperator.Proofs.Validation
import ServerOperator.Schema.Definition

/-!
# What the cluster admits can be read

The schema of servers and their decoder agree. Each document that the published schema lets through
can be read, if its metadata can, of which the schema says nothing; and each server that is written
is let through.
-/

namespace ServerOperator

open Json

/-! ### Reading what a schema accepts -/

/-- The value is taken for the field, whatever the record holds by then. -/
def Field.Takes (field : Field σ) (value : Json) : Prop :=
  ∀ record, ∃ changed, field.apply value record = .ok changed

theorem Field.takes_mk {name : String} {mayBeAbsent mayBeLeftOff : Bool} {decoder : Decoder α}
    {set : α → σ → σ} {value : Json} (hread : ∃ held, decoder.tree value = .ok held) :
    (Field.mk name mayBeAbsent mayBeLeftOff
      (decoder.map fun value record => .ok (set value record))).Takes value := by
  obtain ⟨held, hheld⟩ := hread
  intro record
  rw [apply_mk, hheld]
  exact ⟨_, rfl⟩

namespace Decoder

variable {fields : List (Field σ)} {members : List (String × Json)}

theorem exists_takeMembers (htakes : ∀ member ∈ members, ∀ field ∈ fields,
    field.name = member.1 → field.Takes member.2) (record : σ) :
    ∃ taken, takeMembers fields record members = .ok taken := by
  induction members generalizing record with
  | nil => exact ⟨record, rfl⟩
  | cons member rest ih =>
      obtain ⟨name, value⟩ := member
      obtain ⟨hfirst, hrest⟩ := List.forall_mem_cons.mp htakes
      cases hfield : field? fields name with
      | none =>
          rw [takeMembers_cons_of_unknown hfield]
          exact ih hrest record
      | some field =>
          obtain ⟨hmem, hname⟩ := mem_of_field? hfield
          obtain ⟨changed, hchanged⟩ := hfirst field hmem hname record
          rw [takeMembers_cons_of_known hfield, hchanged]
          exact ih hrest changed

theorem exists_record {strict : Bool} {title : String} {initial : σ}
    (htakes : ∀ member ∈ members, ∀ field ∈ fields, field.name = member.1 → field.Takes member.2)
    (hpresent : ∀ field ∈ fields, field.mayBeAbsent = false →
      field.name ∈ members.map Prod.fst) :
    ∃ taken, (Decoder.record strict title initial fields).tree (object members) = .ok taken := by
  obtain ⟨taken, htaken⟩ := exists_takeMembers htakes initial
  exact ⟨taken, record_object_eq_ok_iff.mpr ⟨htaken, hpresent⟩⟩

end Decoder

namespace Schema

open Decoder

/-- Whatever the schema accepts can be read. -/
def ReadBy (schema : Schema) (decoder : Decoder α) : Prop :=
  ∀ document, schema.accepts document = true → ∃ value, decoder.tree document = .ok value

theorem readBy_text : text.ReadBy Decoder.string := by
  intro document haccepts
  cases document with
  | string value => exact ⟨value, rfl⟩
  | _ => simp [accepts] at haccepts

theorem readBy_choice (name : α → String) (values : List α) :
    (choice (values.map name)).ReadBy (.choice (values.map fun value => (name value, value))) := by
  intro document haccepts
  cases document with
  | string written =>
      have hwritten : ∃ value ∈ values, name value = written := by simpa [accepts] using haccepts
      obtain ⟨read, hread⟩ :
          ∃ read, (values.map fun value => (name value, value)).lookup written = some read := by
        rw [← Option.ne_none_iff_exists', Ne, List.lookup_eq_none_iff]
        intro hnone
        obtain ⟨value, hmem, rfl⟩ := hwritten
        simpa using hnone (name value, value) (List.mem_map_of_mem hmem)
      refine ⟨read, ?_⟩
      change choice.named _ written = _
      rw [choice.named, hread]
  | _ => simp [accepts] at haccepts

variable {schema : Schema} {decoder : Decoder α}

theorem ReadBy.list (hread : schema.ReadBy decoder) : (list schema).ReadBy decoder.list := by
  intro document haccepts
  cases document with
  | array documents =>
      have hall : ∀ item ∈ documents, schema.accepts item = true := by
        simpa [accepts] using haccepts
      change ∃ values, documents.mapM decoder.tree = .ok values
      clear haccepts
      induction documents with
      | nil => exact ⟨[], rfl⟩
      | cons first rest ih =>
          obtain ⟨hfirst, hrest⟩ := List.forall_mem_cons.mp hall
          obtain ⟨value, hvalue⟩ := hread first hfirst
          obtain ⟨values, hvalues⟩ := ih hrest
          rw [List.mapM_cons, hvalue, hvalues]
          exact ⟨value :: values, rfl⟩
  | _ => simp [accepts] at haccepts

theorem ReadBy.nullable (hread : schema.ReadBy decoder) :
    (nullable schema).ReadBy decoder.nullable := by
  intro document haccepts
  rw [accepts_nullable] at haccepts
  cases document with
  | null => exact ⟨none, rfl⟩
  | _ =>
      obtain ⟨value, hvalue⟩ := hread _ haccepts
      exact ⟨some value, congrArg (Except.map some) hvalue⟩

theorem ReadBy.described (hread : schema.ReadBy decoder) (description : String) :
    (described description schema).ReadBy decoder :=
  fun document haccepts => hread document (by rwa [accepts] at haccepts)

theorem ReadBy.takes (hread : schema.ReadBy decoder) {name : String}
    {mayBeAbsent mayBeLeftOff : Bool} {set : α → σ → σ} :
    ∀ value, schema.accepts value = true → (Field.mk name mayBeAbsent mayBeLeftOff
      (decoder.map fun value record => .ok (set value record))).Takes value :=
  fun value haccepts => Field.takes_mk (hread value haccepts)

section Record

variable {properties : List (String × Schema)} {required : List String}
  {held : List (String × Json)}

theorem acceptsProperties_iff :
    acceptsProperties properties held = true ↔ ∀ property ∈ properties, ∀ member ∈ held,
      member.1 = property.1 → property.2.accepts member.2 = true := by
  induction properties with
  | nil => simp [acceptsProperties]
  | cons property rest ih =>
      obtain ⟨name, schema⟩ := property
      rw [acceptsProperties, Bool.and_eq_true, ih, List.forall_mem_cons]
      refine and_congr_left' ?_
      simp [imp_iff_not_or]

theorem accepts_record_iff :
    (record properties required).accepts (object held) = true ↔
      (∀ name ∈ required, name ∈ held.map Prod.fst) ∧ ∀ property ∈ properties, ∀ member ∈ held,
        member.1 = property.1 → property.2.accepts member.2 = true := by
  rw [accepts, Bool.and_eq_true, acceptsProperties_iff]
  refine and_congr_left' ?_
  simp

/-- A record is read if each of its fields takes what the schema accepts under its name, and if the
schema requires those that may not be absent. -/
theorem readBy_record {strict : Bool} {title : String} {initial : σ} {fields : List (Field σ)}
    (hfields : ∀ field ∈ fields, ∃ schema, (field.name, schema) ∈ properties ∧
      ∀ value, schema.accepts value = true → field.Takes value)
    (hrequired : ∀ field ∈ fields, field.mayBeAbsent = false → field.name ∈ required) :
    (record properties required).ReadBy (.record strict title initial fields) := by
  intro document haccepts
  cases document with
  | object held =>
      obtain ⟨hpresent, hproperties⟩ := accepts_record_iff.mp haccepts
      refine exists_record (fun member hmember field hfield hname => ?_)
        fun field hfield habsent => hpresent _ (hrequired field hfield habsent)
      obtain ⟨schema, hschema, htakes⟩ := hfields field hfield
      exact htakes member.2 (hproperties _ hschema member hmember hname.symm)
  | _ => simp [accepts] at haccepts

end Record

/-! ### Writing what a schema accepts -/

/-- The schema accepts whatever is written. -/
def Admits (schema : Schema) (encode : α → Json) : Prop :=
  ∀ value, schema.accepts (encode value) = true

variable {encode : α → Json}

theorem admits_text : text.Admits string :=
  fun _ => by rw [accepts]

theorem Admits.list (hadmits : schema.Admits encode) :
    (list schema).Admits fun values : List α => array (values.map encode) := by
  intro values
  rw [accepts, List.all_map, List.all_eq_true]
  exact fun value _ => hadmits value

theorem Admits.nullable (hadmits : schema.Admits encode) : (nullable schema).Admits encode := by
  intro value
  rw [accepts_nullable, hadmits value, Bool.or_true]

theorem Admits.described (hadmits : schema.Admits encode) (description : String) :
    (described description schema).Admits encode :=
  fun value => by rw [accepts, hadmits value]

theorem Admits.titled (hadmits : schema.Admits encode) (title : String) :
    (titled title schema).Admits encode :=
  fun value => by rw [accepts, hadmits value]

end Schema

open Schema Decoder

/-! ### The parts of a server -/

theorem Condition.readBy_decoder : Condition.schema.ReadBy Condition.decoder := by
  refine readBy_record ?_ (by simp [Field.required, Field.optional])
  simp only [List.forall_mem_cons]
  exact ⟨⟨_, .tail _ (.tail _ (.tail _ (.tail _ (.head _)))),
      (readBy_choice ConditionType.name _).takes⟩,
    ⟨_, .tail _ (.tail _ (.tail _ (.head _))), (readBy_choice ConditionStatus.name _).takes⟩,
    ⟨_, .tail _ (.tail _ (.head _)), readBy_text.takes⟩,
    ⟨_, .tail _ (.head _), readBy_text.takes⟩,
    ⟨_, .head _, readBy_text.nullable.takes⟩, List.forall_mem_nil _⟩

theorem ServerStatus.readBy_decoder : ServerStatus.schema.ReadBy ServerStatus.decoder := by
  refine readBy_record ?_ (by simp [Field.defaulted])
  simp only [List.forall_mem_cons]
  exact ⟨⟨_, .head _, (Condition.readBy_decoder.list.described _).takes⟩, List.forall_mem_nil _⟩

theorem ServerSpec.readBy_decoder : ServerSpec.schema.ReadBy ServerSpec.decoder := by
  refine readBy_record ?_ (by simp [Field.required, Field.defaulted])
  simp only [List.forall_mem_cons]
  exact ⟨⟨_, .tail _ (.tail _ (.head _)), (readBy_text.described _).takes⟩,
    ⟨_, .tail _ (.head _), (readBy_text.list.nullable.described _).takes⟩,
    ⟨_, .head _, (readBy_text.list.nullable.described _).takes⟩, List.forall_mem_nil _⟩

theorem ServerSpec.admits_toJson : ServerSpec.schema.Admits ServerSpec.toJson := by
  rintro ⟨image, command, args⟩
  have hstrings (description : String) (values : List String) :
      (described description (nullable (list text))).accepts (strings values) = true :=
    admits_text.list.nullable.described description values
  have hstring (description value : String) :
      (described description text).accepts (string value) = true :=
    admits_text.described description value
  rw [schema, toJson, accepts_record_iff]
  constructor
  · simp
  · cases args <;> cases command <;> simp [optionalMember, hstrings, hstring]

theorem Condition.admits_toJson : Condition.schema.Admits Condition.toJson := by
  rintro ⟨type, status, reason, message, time⟩
  have htype : type.name ∈ ConditionType.all.map ConditionType.name := by
    cases type <;> decide
  have hstatus : status.name ∈ ConditionStatus.all.map ConditionStatus.name := by
    cases status <;> decide
  rw [schema, toJson, accepts_record_iff]
  constructor
  · simp
  · cases time <;> simp [optionalMember, accepts, htype, hstatus]

theorem ServerStatus.admits_toJson : ServerStatus.schema.Admits ServerStatus.toJson := by
  rintro ⟨conditions⟩
  rw [schema, toJson, accepts_record_iff]
  constructor
  · nofun
  · simp only [List.forall_mem_singleton]
    cases conditions with
    | nil => nofun
    | cons first rest =>
        intro member hmember _
        obtain rfl := List.mem_singleton.mp hmember
        exact Condition.admits_toJson.list.described _ (first :: rest)

/-! ### Servers -/

theorem Server.admits_toJson : Server.schema.Admits Server.toJson := by
  refine Admits.titled (Admits.described ?_ _) _
  rintro ⟨metadata, spec, status⟩
  have hspec := ServerSpec.admits_toJson spec
  have hstatus (status : ServerStatus) := ServerStatus.admits_toJson.nullable status
  rw [toJson, accepts_record_iff]
  constructor
  · simp
  · cases status <;> simp [optionalMember, hspec, hstatus]

theorem Server.exists_tree {document : Json} (haccepts : Server.schema.accepts document = true)
    (hpresent : "metadata" ∈ document.members.map Prod.fst)
    (hmetadata : ∀ value, ("metadata", value) ∈ document.members →
      ∃ metadata, Metadata.decoder.tree value = .ok metadata) :
    ∃ server, Server.decoder.tree document = .ok server := by
  rw [schema, accepts, accepts] at haccepts
  cases document with
  | object members =>
      obtain ⟨hrequired, hproperties⟩ := accepts_record_iff.mp haccepts
      refine exists_record ?_ ?_
      · rintro ⟨name, value⟩ hmember
        simp only [List.forall_mem_cons]
        refine ⟨?_, ?_, ?_, List.forall_mem_nil _⟩
        -- The metadata are no property, so the schema says nothing about them.
        · rintro rfl
          exact Field.takes_mk (hmetadata value hmember)
        · rintro rfl
          exact ServerSpec.readBy_decoder.takes value (hproperties _ (.head _) _ hmember rfl)
        · rintro rfl
          exact ServerStatus.readBy_decoder.nullable.takes value
            (hproperties _ (.tail _ (.head _)) _ hmember rfl)
      · simp only [List.forall_mem_cons]
        exact ⟨fun _ => hpresent, fun _ => hrequired "spec" (.head _), nofun, nofun⟩
  | _ => simp [accepts] at haccepts

/-- The schema in the definition that is printed agrees with the decoder of servers. A document that
it lets through is read as a server if its metadata are read, and a server that is written passes. -/
theorem Server.published_schema_agrees :
    ∃ published,
      ["spec", "versions", "0", "schema", "openAPIV3Schema"].foldlM Json.step? Server.definition =
        some published ∧
      (∀ document : Json, "metadata" ∈ document.members.map Prod.fst →
        (∀ value, ("metadata", value) ∈ document.members →
          ∃ metadata, Metadata.decoder.tree value = .ok metadata) →
        published.validates document = true →
        ∃ server, Server.decoder.tree document = .ok server) ∧
      ∀ server : Server, published.validates server.toJson = true := by
  refine ⟨Server.schema.toJson, rfl, ?_, ?_⟩
  · intro document hpresent hmetadata hvalid
    rw [validates_toJson] at hvalid
    exact Server.exists_tree hvalid hpresent hmetadata
  · intro server
    rw [validates_toJson]
    exact Server.admits_toJson server

/-- A record without a status, with a `null` command and a member that the schema does not name. The
schema does not let a condition of another type through. -/
theorem Server.published_schema_agrees_nullStatus :
    let spec := object
      [("command", .null), ("image", string "quay.io/web"), ("replicas", integer 2)]
    let document (status : Json) := object
      [("metadata", object [("name", string "web")]), ("spec", spec), ("status", status)]
    let progressing := object [("conditions", array [object [("message", string "still pulling"),
      ("reason", string "Pulling"), ("status", string "True"), ("type", string "Progressing")]])]
    Server.schema.toJson.validates (document .null) = true ∧
      Server.schema.toJson.validates (document progressing) = false ∧
      ∃ server, Server.decoder.tree (document .null) = .ok server ∧
        Server.schema.toJson.validates server.toJson = true := by
  intro spec document progressing
  obtain ⟨published, hfound, hread, hadmits⟩ := Server.published_schema_agrees
  obtain rfl : Server.schema.toJson = published := Option.some.inj hfound
  have hvalid : Server.schema.toJson.validates (document .null) = true := by
    rw [validates_toJson]
    simp [document, spec, Server.schema, ServerSpec.schema, accepts, acceptsProperties]
  have hinvalid : Server.schema.toJson.validates (document progressing) = false := by
    rw [validates_toJson]
    simp [document, progressing, Server.schema, ServerStatus.schema, Condition.schema, accepts,
      acceptsProperties, ConditionType.all, ConditionType.name]
  have hmetadata : ∀ value, ("metadata", value) ∈ (document .null).members →
      ∃ metadata, Metadata.decoder.tree value = .ok metadata := by
    intro value hmem
    obtain rfl : value = object [("name", string "web")] := by
      simpa [document, Json.members] using hmem
    exact ⟨_, rfl⟩
  obtain ⟨server, hserver⟩ := hread (document .null) (.head _) hmetadata hvalid
  exact ⟨hvalid, hinvalid, server, hserver, hadmits server⟩

end ServerOperator
