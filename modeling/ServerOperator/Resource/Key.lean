/-!
Keys: the namespace and name under which an object is stored.
-/

namespace ServerOperator

structure Key where
  namespaceName : String
  name : String
deriving DecidableEq, Repr, Inhabited

namespace Key

def text (key : Key) : String :=
  key.namespaceName ++ "/" ++ key.name

/-- Keys ascend by namespace, then by name. -/
def precedes (left right : Key) : Bool :=
  left.namespaceName < right.namespaceName ||
    (left.namespaceName = right.namespaceName && !(right.name < left.name))

def sort (keys : List Key) : List Key :=
  keys.mergeSort precedes

def distinct (keys : List Key) : Nat :=
  keys.eraseDups.length

end Key

end ServerOperator
