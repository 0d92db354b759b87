import ServerOperator.Resource.Key

/-!
Stores: objects by key. Of entries with the same key the first one counts; a store that starts empty
never has two.
-/

namespace ServerOperator

structure Store (α : Type) where
  entries : List (Key × α)
deriving Inhabited

namespace Store

def empty : Store α := ⟨[]⟩

def findEntry? (key : Key) : List (Key × α) → Option α
  | [] => none
  | (held, object) :: rest => if held = key then some object else findEntry? key rest

def find? (store : Store α) (key : Key) : Option α :=
  findEntry? key store.entries

def contains (store : Store α) (key : Key) : Bool :=
  (store.find? key).isSome

def insertEntry (key : Key) (object : α) : List (Key × α) → List (Key × α)
  | [] => [(key, object)]
  | (held, other) :: rest =>
      if held = key then (key, object) :: rest else (held, other) :: insertEntry key object rest

/-- Stores an object under a key, in place of one that is there. -/
def insert (store : Store α) (key : Key) (object : α) : Store α :=
  ⟨insertEntry key object store.entries⟩

def eraseEntry (key : Key) : List (Key × α) → List (Key × α)
  | [] => []
  | (held, object) :: rest =>
      if held = key then eraseEntry key rest else (held, object) :: eraseEntry key rest

def erase (store : Store α) (key : Key) : Store α :=
  ⟨eraseEntry key store.entries⟩

def keys (store : Store α) : List Key :=
  store.entries.map Prod.fst

@[simp]
theorem find?_empty (key : Key) : (empty : Store α).find? key = none := rfl

theorem findEntry?_insertEntry (key other : Key) (object : α) (entries : List (Key × α)) :
    findEntry? other (insertEntry key object entries) =
      if other = key then some object else findEntry? other entries := by
  induction entries with
  | nil => simp [insertEntry, findEntry?, eq_comm]
  | cons entry rest ih =>
      obtain ⟨held, value⟩ := entry
      grind [insertEntry, findEntry?]

theorem findEntry?_eraseEntry (key other : Key) (entries : List (Key × α)) :
    findEntry? other (eraseEntry key entries) =
      if other = key then none else findEntry? other entries := by
  induction entries with
  | nil => simp [eraseEntry, findEntry?]
  | cons entry rest ih =>
      obtain ⟨held, value⟩ := entry
      grind [eraseEntry, findEntry?]

@[simp]
theorem find?_insert_self (store : Store α) (key : Key) (object : α) :
    (store.insert key object).find? key = some object := by
  simp [insert, find?, findEntry?_insertEntry]

theorem find?_insert_of_ne (store : Store α) (object : α) {key other : Key}
    (hne : other ≠ key) : (store.insert key object).find? other = store.find? other := by
  simp [insert, find?, findEntry?_insertEntry, hne]

@[simp]
theorem find?_erase_self (store : Store α) (key : Key) : (store.erase key).find? key = none := by
  simp [erase, find?, findEntry?_eraseEntry]

theorem find?_erase_of_ne (store : Store α) {key other : Key} (hne : other ≠ key) :
    (store.erase key).find? other = store.find? other := by
  simp [erase, find?, findEntry?_eraseEntry, hne]

end Store

end ServerOperator
