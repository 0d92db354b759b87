import ServerOperator.Json.Basic

/-!
Merge patches: a patch that is an object changes the members it names, where `null` removes one; any
other patch replaces the document.
-/

namespace ServerOperator.Json

def removeMember (name : String) (members : List (String × Json)) : List (String × Json) :=
  members.filter fun member => member.1 ≠ name

mutual

def mergePatch (patch target : Json) : Json :=
  match patch with
  | object changes => object (mergeMembers changes target.members)
  | replacement => replacement

def mergeMembers (changes members : List (String × Json)) : List (String × Json) :=
  match changes with
  | [] => members
  | (name, change) :: rest =>
      let others := removeMember name members
      mergeMembers rest <|
        match change with
        | null => others
        | change =>
            insertSorted name (mergePatch change ((members.lookup name).getD null)) others

end

end ServerOperator.Json
