/-!
The health endpoints: two paths that answer as long as the operator lives.
-/

namespace ServerOperator.Health

structure Response where
  status : Nat
  headers : List (String × String)
  body : String
deriving DecidableEq, Repr

def paths : List String := ["/healthz", "/readyz"]

/-- What follows the scheme and the host of an identifier, if it has these. -/
def afterHost (uri : List Char) : List Char :=
  match uri with
  | '/' :: _ => uri
  | _ => go uri
where
  go : List Char → List Char
    | ':' :: '/' :: '/' :: rest => rest.dropWhile fun character => !endsHost character
    | _ :: rest => go rest
    | [] => uri
  endsHost (character : Char) : Bool :=
    ['/', '?', '#'].contains character

def path (uri : String) : String :=
  String.ofList <| (afterHost uri.toList).takeWhile fun character =>
    !(['?', '#'].contains character)

def okHeaders : List (String × String) :=
  [("content-length", "2"), ("content-type", "text/plain; charset=utf-8")]

/-- Paths are compared as they are written. Methods other than reading are refused. -/
def respond (method uri : String) : Response :=
  if paths.contains (path uri) then
    match method with
    | "GET" => ⟨200, okHeaders, "ok"⟩
    | "HEAD" => ⟨200, okHeaders, ""⟩
    | _ => ⟨405, [("allow", "GET,HEAD"), ("content-length", "0")], ""⟩
  else ⟨404, [], ""⟩

end ServerOperator.Health
