import ServerOperator.Proofs.Members
import ServerOperator.Schema.Basic

/-!
# What a published schema lets through

A cluster knows a schema only as the document that was published. Read by its keywords, the document
of a schema lets through what the schema accepts.
-/

namespace ServerOperator

open Json

/-! ### Validation by keywords -/

namespace Json

/-- The types that published schemas name. -/
def hasType : String → Json → Bool
  | "string", string _ => true
  | "array", array _ => true
  | "object", object _ => true
  | _, _ => false

def isOneOf (names : List Json) (document : Json) : Bool :=
  match document with
  | string name => names.any fun
      | string other => other = name
      | _ => false
  | _ => false

def hasMembers (names : List Json) (document : Json) : Bool :=
  match document with
  | object held => names.all fun
      | string name => (held.map Prod.fst).contains name
      | _ => false
  | _ => true

/-- Whether `null` is let through, whatever the other keywords say. -/
def isNullable (keywords : List (String × Json)) : Bool :=
  match keywords.lookup "nullable" with
  | some (bool nullable) => nullable
  | _ => false

def isNull : Json → Bool
  | null => true
  | _ => false

mutual

/-- Structural validation: whether a schema, given as a document, lets a document through. Items and
members are looked at where there are any, and members that no keyword names may hold anything. -/
def validates : Json → Json → Bool
  | object keywords, document =>
      (isNullable keywords && document.isNull) || obeysAll keywords document
  | _, _ => false

def obeysAll : List (String × Json) → Json → Bool
  | [], _ => true
  | (keyword, value) :: rest, document => obeys keyword value document && obeysAll rest document

def obeys : String → Json → Json → Bool
  | "type", string name, document => document.hasType name
  | "enum", array names, document => document.isOneOf names
  | "required", array names, document => document.hasMembers names
  | "items", schema, array items => items.all (validates schema)
  | "properties", object properties, object held => obeysProperties properties held
  -- Other keywords only explain, and the last two say nothing about anything else.
  | _, _, _ => true

def obeysProperties : List (String × Json) → List (String × Json) → Bool
  | [], _ => true
  | (name, schema) :: rest, held =>
      held.all (fun member => member.1 ≠ name || validates schema member.2) &&
        obeysProperties rest held

end

variable {name : String} {keywords : List (String × Json)} {document : Json}

theorem validates_of_not_nullable (hnullable : isNullable keywords = false) :
    validates (object keywords) document = obeysAll keywords document := by
  simp [validates, hnullable]

theorem obeysAll_append (others : List (String × Json)) :
    obeysAll (keywords ++ others) document =
      (obeysAll keywords document && obeysAll others document) := by
  induction keywords with
  | nil => simp [obeysAll]
  | cons keyword rest ih =>
      obtain ⟨held, value⟩ := keyword
      simp [obeysAll, ih, Bool.and_assoc]

/-! ### Keywords that only explain -/

theorem obeys_nullable (value : Json) : obeys "nullable" value document = true := by
  simp [obeys]

theorem obeys_description (value : Json) : obeys "description" value document = true := by
  simp [obeys]

theorem obeys_title (value : Json) : obeys "title" value document = true := by
  simp [obeys]

theorem obeysAll_insertSorted (hexplains : ∀ value, obeys name value document = true)
    (value : Json) :
    obeysAll (insertSorted name value keywords) document = obeysAll keywords document := by
  induction keywords with
  | nil => simp [insertSorted, obeysAll, hexplains]
  | cons keyword rest ih =>
      obtain ⟨held, old⟩ := keyword
      unfold insertSorted
      split_ifs with hsame hbefore
      · subst hsame
        simp [obeysAll, hexplains]
      · simp [obeysAll, hexplains]
      · simp [obeysAll, ih]

theorem validates_insertSorted (hname : name ≠ "nullable")
    (hexplains : ∀ value, obeys name value document = true) (value : Json) :
    validates (object (insertSorted name value keywords)) document =
      validates (object keywords) document := by
  have hnullable : isNullable (insertSorted name value keywords) = isNullable keywords := by
    unfold isNullable
    rw [lookup_insertSorted_of_ne hname.symm]
  unfold validates
  rw [hnullable, obeysAll_insertSorted hexplains]

theorem validates_insertSorted_nullable :
    validates (object (insertSorted "nullable" (bool true) keywords)) document =
      (document.isNull || validates (object keywords) document) := by
  unfold validates
  rw [obeysAll_insertSorted obeys_nullable, isNullable, lookup_insertSorted_self]
  cases document.isNull <;> simp

end Json

/-! ### The document of a schema -/

namespace Schema

theorem accepts_nullable (schema : Schema) (document : Json) :
    (nullable schema).accepts document = (document.isNull || schema.accepts document) := by
  cases document <;> simp [accepts, isNull]

theorem isOneOf_strings (names : List String) (name : String) :
    isOneOf (names.map string) (string name) = names.contains name := by
  induction names with
  | nil => rfl
  | cons first rest ih =>
      change (decide (first = name) || isOneOf (rest.map string) (string name)) = _
      rw [ih, List.contains_cons, Bool.beq_comm]
      rfl

theorem hasMembers_strings (names : List String) (held : List (String × Json)) :
    hasMembers (names.map string) (object held) =
      names.all fun name => (held.map Prod.fst).contains name := by
  change List.all (names.map string) _ = _
  rw [List.all_map]
  rfl

/-- The keyword `required` is left out where it would have no names. -/
theorem obeysAll_required (required : List String) (held : List (String × Json)) :
    obeysAll (if required.isEmpty then [] else [("required", strings required)]) (object held) =
      required.all fun name => (held.map Prod.fst).contains name := by
  cases required with
  | nil => simp [obeysAll]
  | cons name rest =>
      change obeysAll [("required", strings (name :: rest))] _ = _
      simp only [strings, obeysAll, obeys, Bool.and_true]
      exact hasMembers_strings (name :: rest) held

theorem isNullable_members_record (properties : List (String × Schema)) (required : List String) :
    isNullable (members (record properties required)) = false := by
  rw [members]
  cases required <;> rfl

mutual

-- Keywords that only explain stand among the others, so they are taken out one by one. What remains
-- is the one about `null`, and one for each part of the schema.
/-- The document of a schema lets through what the schema accepts. -/
theorem validates_toJson (schema : Schema) (document : Json) :
    schema.toJson.validates document = schema.accepts document := by
  cases schema with
  | text =>
      rw [toJson, members, validates_of_not_nullable rfl]
      cases document <;> simp [obeysAll, obeys, hasType, accepts]
  | choice names =>
      rw [toJson, members, validates_of_not_nullable rfl]
      cases document <;>
        simp [obeysAll, obeys, strings, hasType, accepts, isOneOf_strings]
  | list items =>
      have hitems : (object (members items)).validates = items.accepts :=
        funext (validates_toJson items)
      rw [toJson, members, validates_of_not_nullable rfl]
      cases document <;> simp [obeysAll, obeys, hasType, accepts, hitems]
  | record properties required =>
      rw [toJson, validates_of_not_nullable (isNullable_members_record properties required),
        members, obeysAll_append, obeysAll_append]
      cases document with
      | object held =>
          rw [obeysAll_required]
          simp [obeysAll, obeys, hasType, accepts, obeysProperties_propertyMembers properties,
            Bool.and_comm]
      | _ => simp [obeysAll, obeys, hasType, accepts]
  | nullable schema =>
      rw [toJson, members, validates_insertSorted_nullable, accepts_nullable]
      exact congrArg _ (validates_toJson schema document)
  | described description schema =>
      rw [toJson, members, validates_insertSorted (by decide) obeys_description,
        accepts]
      exact validates_toJson schema document
  | titled title schema =>
      rw [toJson, members, validates_insertSorted (by decide) obeys_title, accepts]
      exact validates_toJson schema document
  termination_by sizeOf schema

theorem obeysProperties_propertyMembers (properties : List (String × Schema))
    (held : List (String × Json)) :
    obeysProperties (propertyMembers properties) held = acceptsProperties properties held := by
  cases properties with
  | nil => simp [propertyMembers, obeysProperties, acceptsProperties]
  | cons property rest =>
      obtain ⟨name, schema⟩ := property
      have hschema : (object (members schema)).validates = schema.accepts :=
        funext (validates_toJson schema)
      rw [propertyMembers, obeysProperties, acceptsProperties, hschema,
        obeysProperties_propertyMembers rest]
  termination_by sizeOf properties

end

end Schema

end ServerOperator
