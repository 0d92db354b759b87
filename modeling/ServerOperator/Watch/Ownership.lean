import ServerOperator.Resource.Server

/-!
Ownership: which server a changed child belongs to.
-/

namespace ServerOperator

/-- The group of an API version such as `group/version`. -/
def apiGroup? (apiVersion : String) : Option String :=
  let characters := apiVersion.toList
  if '/' ∈ characters then
    some (String.ofList (characters.takeWhile fun character => character ≠ '/'))
  else none

/-- The reference names a server record, of whatever version. -/
def OwnerReference.isServer (reference : OwnerReference) : Bool :=
  reference.kind = serverKind && apiGroup? reference.apiVersion = some serverGroup

/-- The key of the server that an object belongs to: the first server among its owners, or else the
object's own key, since children have their server's name. -/
def Metadata.ownerKey? (metadata : Metadata) : Option Key := do
  let namespaceName ← metadata.namespaceName
  match (metadata.ownerReferences.getD []).find? OwnerReference.isServer with
  | some owner => return ⟨namespaceName, owner.name⟩
  | none => return ⟨namespaceName, ← metadata.name⟩

def Key.reference (key : Key) : String :=
  serverKind ++ ".v1." ++ serverGroup ++ "/" ++ key.name ++ "." ++ key.namespaceName

end ServerOperator
