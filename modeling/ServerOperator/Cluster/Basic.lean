import ServerOperator.Cluster.Store
import ServerOperator.Json.MergePatch
import ServerOperator.Pass.Run
import ServerOperator.Resource.Kind

/-!
A cluster: one store per kind of object, and how it answers calls when nothing goes wrong.
-/

namespace ServerOperator

structure Cluster where
  servers : Store Server
  deployments : Store Deployment
  services : Store Service
  routes : Store Route
deriving Inhabited

namespace Cluster

def empty : Cluster := ⟨.empty, .empty, .empty, .empty⟩

def store (cluster : Cluster) : (kind : Kind) → Store kind.Object
  | .server => cluster.servers
  | .child .deployment => cluster.deployments
  | .child .service => cluster.services
  | .child .route => cluster.routes

def withStore (cluster : Cluster) : (kind : Kind) → Store kind.Object → Cluster
  | .server, store => { cluster with servers := store }
  | .child .deployment, store => { cluster with deployments := store }
  | .child .service, store => { cluster with services := store }
  | .child .route, store => { cluster with routes := store }

@[simp]
theorem store_withStore_self (cluster : Cluster) (kind : Kind) (store : Store kind.Object) :
    (cluster.withStore kind store).store kind = store := by
  rcases kind with _ | (_ | _ | _) <;> rfl

theorem store_withStore_of_ne (cluster : Cluster) {kind other : Kind} (store : Store kind.Object)
    (hne : other ≠ kind) : (cluster.withStore kind store).store other = cluster.store other := by
  rcases kind with _ | (_ | _ | _) <;> rcases other with _ | (_ | _ | _) <;>
    first | rfl | exact absurd rfl hne

def insert (cluster : Cluster) (kind : Kind) (key : Key) (object : kind.Object) : Cluster :=
  cluster.withStore kind ((cluster.store kind).insert key object)

def erase (cluster : Cluster) (kind : Kind) (key : Key) : Cluster :=
  cluster.withStore kind ((cluster.store kind).erase key)

def refusal (message reason : String) (code : UInt16) : ClusterError :=
  .refused ⟨"Failure", message, reason, code⟩

def alreadyExists (key : Key) : ClusterError :=
  refusal (key.text ++ " already exists") "AlreadyExists" 409

def notFound (key : Key) : ClusterError :=
  refusal (key.text ++ " not found") "NotFound" 404

/-- The answer to a call, and the cluster after it. Objects are created only where there are none,
and a status is replaced as a whole. -/
def answer (cluster : Cluster) : (call : Call) → call.Answer × Cluster
  | .fetch key => (.ok (cluster.servers.find? key), cluster)
  | .get kind key => (.ok ((cluster.store (.child kind)).find? key), cluster)
  | .create kind object =>
      let key := kind.key object
      if (cluster.store (.child kind)).contains key then (.error (alreadyExists key), cluster)
      else (.ok object, cluster.insert (.child kind) key object)
  | .writeStatus key status =>
      match cluster.servers.find? key with
      | some server =>
          (.ok (), cluster.insert .server key { server with status := some status })
      | none => (.error (notFound key), cluster)

/-- The cluster by itself: nothing is cancelled, and every call is answered. -/
def backend : Backend Cluster where
  isCancelled _ := false
  perform call cluster :=
    let (answer, after) := cluster.answer call
    (some answer, after)

/-- The cluster after a merge patch of the object under a key, which stays under it, and whether
there is one. The patched document is read again. -/
def merge (cluster : Cluster) (kind : Kind) (key : Key) (patch : Json) :
    Except Fault (Bool × Cluster) :=
  match (cluster.store kind).find? key with
  | none => .ok (false, cluster)
  | some object => do
      let patched ← kind.decoder.tree (patch.mergePatch (kind.toJson object))
      return (true, cluster.insert kind key patched)

end Cluster

end ServerOperator
