import ServerOperator.Decoder.Basic

/-!
Decoders of records: objects whose members are the fields of a structure. Unknown members are passed
over. A record may be `strict` or `lenient`.

A strict record may also be written as the list of all its fields in the order they are declared.
It has every field once: a second one is a fault, and so is a missing one that has no default.
A lenient record is always an object; the last of repeated fields counts and none is required.
-/

namespace ServerOperator

/-- A field of a record that is built up from an initial value. `step` reads the field's value, and
gives the change of the record, which may still refuse the value. -/
structure Field (σ : Type) where
  name : String
  mayBeAbsent : Bool
  mayBeLeftOff : Bool
  step : Decoder (σ → Except Fault σ)

namespace Field

/-- A field that every written form has. -/
def required (name : String) (decoder : Decoder α) (set : α → σ → σ) : Field σ :=
  ⟨name, false, false, decoder.map fun value record => .ok (set value record)⟩

/-- A field that an object may lack, but a list of all fields may not. -/
def optional (name : String) (decoder : Decoder α) (set : α → σ → σ) : Field σ :=
  ⟨name, true, false, decoder.map fun value record => .ok (set value record)⟩

/-- A field that an object may lack and that may be left off the end of a list. -/
def defaulted (name : String) (decoder : Decoder α) (set : α → σ → σ) : Field σ :=
  ⟨name, true, true, decoder.map fun value record => .ok (set value record)⟩

/-- A field whose absence and whose `null` both mean no value. -/
def standard (name : String) (decoder : Decoder α) (set : Option α → σ → σ) : Field σ :=
  defaulted name decoder.nullable set

/-- A field that leaves the record as it is, but has to hold one given text. -/
def fixed (name content : String) : Field σ :=
  ⟨name, true, true, Decoder.string.map fun value record =>
    if value = content then .ok record else .error (.invalidValue (.string value) content)⟩

end Field

namespace Decoder

open Json

def field? (fields : List (Field σ)) (name : String) : Option (Field σ) :=
  fields.find? fun field => field.name = name

def takeMembers (fields : List (Field σ)) (record : σ) (members : List (String × Json)) :
    Except Fault σ :=
  members.foldlM (fun record member =>
    match field? fields member.1 with
    | some field => do
        let change ← field.step.tree member.2
        change record
    | none => .ok record) record

/-- The first field, in the order of declaration, that is neither present nor dispensable. -/
def firstMissing? (fields : List (Field σ)) (present : List String) : Option String :=
  (fields.find? fun field => !field.mayBeAbsent && !present.contains field.name).map Field.name

def checkPresent (fields : List (Field σ)) (present : List String) : Except Fault Unit :=
  match firstMissing? fields present with
  | some name => .error (.missingField name)
  | none => .ok ()

/-- How a list that lacks fields is described: by the record's name and number of fields. -/
def listForm (name : String) (fields : List (Field σ)) : String :=
  "struct " ++ name ++ " with " ++ toString fields.length ++
    (if fields.length = 1 then " element" else " elements")

/-- Takes the items of a list as the fields in the order of declaration; `taken` were taken before.
What remains is the items without a field. -/
def takeItems (form : String) (taken : Nat) (record : σ) :
    List (Field σ) → List Json → Except Fault (σ × List Json)
  | [], items => .ok (record, items)
  | field :: fields, [] =>
      if field.mayBeLeftOff then takeItems form (taken + 1) record fields []
      else .error (.invalidLength taken form)
  | field :: fields, item :: items => do
      let change ← field.step.tree item
      takeItems form (taken + 1) (← change record) fields items

/-- Reads the members of an object from a text. A fault of the record as a whole is a result, since
its place is not yet known. -/
def readMembers (fields : List (Field σ)) (once first : Bool) (present : List String)
    (record : σ) : Nat → Reader (Except Fault (σ × List String))
  | 0 => return .ok (record, present)
  | fuel + 1 => do
      match ← Reader.memberName? first with
      | none => return .ok (record, present)
      | some name =>
          match field? fields name with
          | none =>
              Reader.colon
              Reader.skipValue
              readMembers fields once false present record fuel
          | some field =>
              if once && present.contains name then return .error (.duplicateField name)
              Reader.colon
              let change ← field.step.text
              match change record with
              | .error fault => return .error fault
              | .ok changed => readMembers fields once false (name :: present) changed fuel

/-- Reads the items of a list from a text as fields, as `takeItems` does from a tree. -/
def readItems (form : String) (taken : Nat) (record : σ) :
    List (Field σ) → Reader (Except Fault σ)
  | [] => return .ok record
  | field :: fields => do
      if ← Reader.hasItem (taken = 0) then
        let change ← field.step.text
        match change record with
        | .error fault => return .error fault
        | .ok changed => readItems form (taken + 1) changed fields
      else return leftOff taken fields field
where
  leftOff (taken : Nat) (fields : List (Field σ)) (field : Field σ) : Except Fault σ :=
    match (field :: fields).findIdx? fun field => !field.mayBeLeftOff with
    | none => .ok record
    | some dispensable => .error (.invalidLength (taken + dispensable) form)

/-- Closes an object or a list after its content was read, and gives a fault of the whole its
place: behind the closing bracket if that is next. -/
def close (after : Cursor → Cursor) (closing : Reader Unit) (outcome : Except Fault σ) :
    Reader σ := do
  match outcome with
  | .ok record =>
      closing
      return record
  | .error fault => fun cursor => .error ((after cursor).problem (.content fault))

def expectedRecord (strict : Bool) (name : String) : String :=
  if strict then "struct " ++ name else name

def record (strict : Bool) (name : String) (initial : σ) (fields : List (Field σ)) : Decoder σ where
  tree
    | .object members => do
        let record ← takeMembers fields initial members
        checkPresent fields (members.map Prod.fst)
        return record
    | .array items =>
        if strict then do
          let (record, rest) ← takeItems (listForm name fields) 0 initial fields items
          if rest.isEmpty then return record
          else .error (.invalidLength items.length "fewer elements in array")
        else .error (.invalidType .sequence name)
    | document => mismatch document (expectedRecord strict name)
  text := do
    match ← Reader.scalarOrBracket with
    | .inl document => settle (mismatch document (expectedRecord strict name))
    | .inr .sequence =>
        Reader.skip
        if strict then
          close Reader.afterList Reader.closeList
            (← readItems (listForm name fields) 0 initial fields)
        else
          close Reader.afterList Reader.closeList (.error (.invalidType .sequence name))
    | .inr _ =>
        Reader.skip
        let outcome ← readMembers fields strict true [] initial (← Reader.bound)
        close Reader.afterObject Reader.closeObject do
          let (record, present) ← outcome
          checkPresent fields present
          return record

end Decoder

end ServerOperator
