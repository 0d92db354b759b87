import ServerOperator.ClusterError
import ServerOperator.Resource.Kind

/-!
Calls: what a pass asks of the stores, and what each call can be answered with.
-/

namespace ServerOperator

inductive Call where
  | fetch (key : Key)
  | create (kind : ChildKind) (object : kind.Object)
  | get (kind : ChildKind) (key : Key)
  | writeStatus (key : Key) (status : ServerStatus)

namespace Call

/-- What a call gives when it succeeds. An object that does not exist is no failure. -/
abbrev Value : Call → Type
  | fetch _ => Option Server
  | create kind _ => kind.Object
  | get kind _ => Option kind.Object
  | writeStatus _ _ => Unit

abbrev Answer (call : Call) : Type :=
  Except ClusterError call.Value

def kind : Call → Kind
  | fetch _ => .server
  | create kind _ => .child kind
  | get kind _ => .child kind
  | writeStatus _ _ => .server

def key : Call → Key
  | fetch key => key
  | create kind object => kind.key object
  | get _ key => key
  | writeStatus key _ => key

def name : Call → String
  | fetch _ => "fetch " ++ serverKind
  | create kind _ => "create " ++ kind.name
  | get kind _ => "get " ++ kind.name
  | writeStatus _ _ => "write " ++ serverKind

end Call

inductive PassError where
  | fetch (key : Key) (source : ClusterError)
  | create (kind : ChildKind) (key : Key) (source : ClusterError)
  | status (key : Key) (source : ClusterError)
  | ownerReference (key : Key)
  | cancelled
deriving DecidableEq, Repr

def PassError.message : PassError → String
  | fetch key source => "failed to fetch MCPServer " ++ key.text ++ ": " ++ source.message
  | create kind key source =>
      "failed to create " ++ kind.name ++ " for " ++ key.text ++ ": " ++ source.message
  | status key source =>
      "failed to update status of MCPServer " ++ key.text ++ ": " ++ source.message
  | ownerReference key => "MCPServer " ++ key.text ++ " has no name or uid to own children with"
  | cancelled => "reconcile cancelled"

/-- A pass as data: it ends with a value or an error, or makes a call and goes on with the
answer. -/
inductive Pass (α : Type) where
  | finished (value : α)
  | failed (error : PassError)
  | ask (call : Call) (next : call.Answer → Pass α)

namespace Pass

def bind : Pass α → (α → Pass β) → Pass β
  | finished value, rest => rest value
  | failed error, _ => failed error
  | ask call next, rest => ask call fun answer => (next answer).bind rest

instance : Monad Pass where
  pure := finished
  bind := bind

theorem bind_finished (pass : Pass α) : pass.bind finished = pass := by
  induction pass with
  | finished value => rfl
  | failed error => rfl
  | ask call next ih => exact congrArg (ask call) (funext ih)

theorem bind_assoc (pass : Pass α) (first : α → Pass β) (second : β → Pass γ) :
    (pass.bind first).bind second = pass.bind fun value => (first value).bind second := by
  induction pass with
  | finished value => rfl
  | failed error => rfl
  | ask call next ih => exact congrArg (ask call) (funext ih)

instance : LawfulMonad Pass :=
  LawfulMonad.mk' Pass bind_finished (fun _ _ => rfl) bind_assoc

def call (call : Call) : Pass call.Answer :=
  ask call finished

end Pass

end ServerOperator
