import ServerOperator.Child.Kind
import ServerOperator.Resource.Server

/-!
All kinds of objects that a cluster stores here: the server records and their children.
-/

namespace ServerOperator

inductive Kind where
  | server
  | child (kind : ChildKind)
deriving DecidableEq, Repr, Inhabited

namespace Kind

def all : List Kind :=
  server :: ChildKind.all.map child

def name : Kind → String
  | server => serverKind
  | child kind => kind.name

def ofName? (name : String) : Option Kind :=
  all.find? fun kind => kind.name = name

abbrev Object : Kind → Type
  | server => Server
  | child kind => kind.Object

def decoder : (kind : Kind) → Decoder kind.Object
  | server => Server.decoder
  | child kind => kind.decoder

def metadata : (kind : Kind) → kind.Object → Metadata
  | server => Server.metadata
  | child kind => kind.metadata

def toJson : (kind : Kind) → kind.Object → Json
  | server => Server.toJson
  | child kind => kind.toJson

def key (kind : Kind) (object : kind.Object) : Key :=
  (kind.metadata object).key

end Kind

end ServerOperator
