import ServerOperator.Pass.Call
import ServerOperator.Resource.Kind

/-!
Requests: how calls are put to the cluster's interface.
-/

namespace ServerOperator

structure HttpRequest where
  method : String
  uri : String
  contentType : Option String
  accept : Option String
  body : Option Json

namespace Kind

/-- The path under which the interface keeps the objects of a kind. -/
def root : Kind → String
  | server => "/apis/" ++ serverApiVersion
  | child .deployment => "/apis/apps/v1"
  | child .service => "/api/v1"
  | child .route => "/apis/route.openshift.io/v1"

def plural : Kind → String
  | server => "mcpservers"
  | child .deployment => "deployments"
  | child .service => "services"
  | child .route => "routes"

def collection (kind : Kind) (namespaceName : Option String) : String :=
  match namespaceName with
  | some name => kind.root ++ "/namespaces/" ++ name ++ "/" ++ kind.plural
  | none => kind.root ++ "/" ++ kind.plural

end Kind

namespace Uri

/-- Characters that the path of an identifier may hold as they are. -/
def mayStandInPath (character : Char) : Bool :=
  let code := character.toNat
  0x80 ≤ code || character.isAlphanum ||
    "!\"$%&'()*+,-./:;=@[\\]_\x7b\x7d~".toList.contains character

/-- Characters that the query of an identifier may hold as they are. -/
def mayStandInQuery (character : Char) : Bool :=
  let code := character.toNat
  0x80 ≤ code || (0x21 ≤ code && code ≤ 0x7e && !(['"', '#', '<', '>'].contains character))

def greatestLength : Nat := 65534

/-- The identifier that a text stands for: what follows a `#` is no part of it. -/
def ofText? (text : String) : Except RequestError String :=
  if greatestLength < text.utf8ByteSize then .error .tooLong
  else
    let kept := text.toList.takeWhile fun character => character ≠ '#'
    let path := kept.takeWhile fun character => character ≠ '?'
    let query := kept.drop (path.length + 1)
    if path.all mayStandInPath && query.all mayStandInQuery then .ok (String.ofList kept)
    else .error .invalidCharacter

end Uri

namespace Call

def method : Call → String
  | fetch _ => "GET"
  | get _ _ => "GET"
  | create _ _ => "POST"
  | writeStatus _ _ => "PATCH"

/-- The path of a named object, which needs a name. -/
def objectPath (kind : Kind) (key : Key) : Except RequestError String :=
  if key.name = "" then .error .emptyName
  else .ok (kind.collection (some key.namespaceName) ++ "/" ++ key.name)

def read (kind : Kind) (key : Key) : Except RequestError HttpRequest := do
  let uri ← Uri.ofText? (← objectPath kind key)
  return { method := "GET", uri := uri, contentType := none, accept := none, body := none }

/-- An object is posted to its own namespace. A status is written as a merge patch that holds
nothing else. -/
def request : Call → Except RequestError HttpRequest
  | fetch key => read .server key
  | get kind key => read (.child kind) key
  | create kind object => do
      let namespaceName := (kind.metadata object).namespaceOrDefault
      let uri ← Uri.ofText? (Kind.collection (.child kind) (some namespaceName) ++ "?")
      return {
        method := "POST"
        uri := uri
        contentType := some "application/json"
        accept := none
        body := some (kind.toJson object) }
  | writeStatus key status => do
      let uri ← Uri.ofText? ((← objectPath .server key) ++ "/status?")
      return {
        method := "PATCH"
        uri := uri
        contentType := some "application/merge-patch+json"
        accept := some "application/json"
        body := some (statusPatch status) }
where
  statusPatch (status : ServerStatus) : Json :=
    Json.object [("status", status.toJson)]

end Call

end ServerOperator
