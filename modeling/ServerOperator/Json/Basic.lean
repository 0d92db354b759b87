import ServerOperator.Number.Decimal

/-!
JSON documents. Members of an object stand in a list; a document that was read has each name once,
in ascending order.
-/

namespace ServerOperator

inductive Json where
  | null
  | bool (value : Bool)
  | integer (value : Int)
  | real (value : Decimal)
  | string (value : String)
  | array (items : List Json)
  | object (members : List (String × Json))
deriving Inhabited

namespace Json

/-- Puts an entry into a list that ascends by name, in place of one of the same name. -/
def insertSorted (name : String) (value : α) : List (String × α) → List (String × α)
  | [] => [(name, value)]
  | (other, held) :: rest =>
      if name = other then (name, value) :: rest
      else if name < other then (name, value) :: (other, held) :: rest
      else (other, held) :: insertSorted name value rest

def sorted (members : List (String × α)) : List (String × α) :=
  members.foldl (fun held member => insertSorted member.1 member.2 held) []

def members : Json → List (String × Json)
  | object entries => entries
  | _ => []

def member? (document : Json) (name : String) : Option Json :=
  document.members.lookup name

/-- A member that stays away when there is no value. -/
def optionalMember (name : String) (encode : α → Json) (value : Option α) :
    List (String × Json) :=
  match value with
  | some held => [(name, encode held)]
  | none => []

/-- A member that stays away when the list is empty. -/
def listMember (name : String) (encode : α → Json) (values : List α) : List (String × Json) :=
  if values.isEmpty then [] else [(name, array (values.map encode))]

def strings (values : List String) : Json :=
  array (values.map string)

end Json

end ServerOperator
