import ServerOperator.Controller.Queue
import ServerOperator.Controller.Scenario
import ServerOperator.Pass.Reconcile
import ServerOperator.Watch.Requests

/-!
The run of a controller through a scenario. A server is looked at when it is listed, when something
of it changes, and after the delay that its last pass asked for. Of one server only one pass runs at
a time, and of all servers as many as the settings allow.
-/

namespace ServerOperator.Controller

structure Flight where
  reference : Reference
  sent : Nat
  call : Call
  next : call.Answer → Pass Action

structure Dispatch where
  time : Nat
  call : Call

structure State where
  now : Nat
  cluster : Cluster
  /-- The server records that the watches have told of. -/
  watched : List Reference
  queue : Queue Reference
  flights : List Flight
  /-- What the watches have yet to tell. -/
  coming : List Event
  /-- The requests that were sent, the latest first. -/
  dispatches : List Dispatch

namespace State

def isRunning (state : State) (reference : Reference) : Bool :=
  state.flights.any fun flight => flight.reference = reference

def schedule (state : State) (reference : Reference) (time : Nat) : State :=
  { state with queue := state.queue.schedule reference time }

def trigger (state : State) (kind : Kind) (object : kind.Object) : State :=
  match Reference.triggered? kind object with
  | some reference => state.schedule reference state.now
  | none => state

/-- Starts or ends the watch of a server record. -/
def watch (state : State) (kind : Kind) (object : kind.Object) (deleted : Bool) : State :=
  match kind, object with
  | .server, server =>
      let reference := Reference.ofMetadata server.metadata
      let others := state.watched.filter fun other => other ≠ reference
      { state with watched := if deleted then others else reference :: others }
  | .child _, _ => state

/-- An object of the list with which a watch begins. -/
def list (state : State) (kind : Kind) (object : kind.Object) : State :=
  (state.watch kind object false).trigger kind object

/-- The objects with which the watches begin: those of the watched namespace, if there is one. -/
def listAll (scenario : Scenario) (state : State) : State :=
  Kind.all.foldl (fun state kind =>
    let objects := (scenario.cluster.store kind).entries.map Prod.snd
    let listed := objects.filter fun object =>
      match scenario.settings.watchNamespace with
      | some name => (kind.metadata object).namespaceName = some name
      | none => true
    listed.foldl (fun state object => state.list kind object) state) state

def initial (scenario : Scenario) : State :=
  listAll scenario {
    now := 0
    cluster := scenario.cluster
    watched := []
    queue := []
    flights := []
    coming := scenario.events
    dispatches := [] }

def observe (event : Event) (state : State) : State :=
  let state := { state with cluster := event.apply state.cluster }
  (state.watch event.kind event.object event.deleted).trigger event.kind event.object

def settle (reference : Reference) (action : Action) (state : State) : State :=
  match action with
  | .awaitChange => state
  | .requeue milliseconds => state.schedule reference (state.now + milliseconds)

/-- Lets a pass go on until it has sent a request or has ended. -/
def advance (scenario : Scenario) (reference : Reference) : Pass Action → State → State
  | .finished action, state =>
      state.settle reference (Action.after scenario.settings.errorRequeue (.ok action))
  | .failed error, state =>
      state.settle reference (Action.after scenario.settings.errorRequeue (.error error))
  | .ask call next, state =>
      match call.request with
      | .error error => state.advance scenario reference (next (.error (.request error)))
      | .ok _ =>
          { state with
            flights := state.flights ++ [⟨reference, state.now, call, next⟩]
            dispatches := ⟨state.now, call⟩ :: state.dispatches }

/-- Lets a request have its effect, and the pass go on with the answer. -/
def land (scenario : Scenario) (flight : Flight) (state : State) : State :=
  let others := state.flights.filter fun other => other.reference ≠ flight.reference
  let state := { state with flights := others }
  match scenario.outages.find? fun outage => outage.concerns flight.call flight.sent with
  | some outage =>
      let answer := (outage.error flight.call).answer flight.call
      state.advance scenario flight.reference (flight.next answer)
  | none =>
      let (answer, cluster) := state.cluster.answer flight.call
      { state with cluster := cluster }.advance scenario flight.reference (flight.next answer)

/-- Starts a pass over a server, or drops the server if no watch tells of it. -/
def start (scenario : Scenario) (reference : Reference) (state : State) : State :=
  let state := { state with queue := state.queue.remove reference }
  if state.watched.contains reference then
    state.advance scenario reference (Pass.reconcile (scenario.clock state.now) reference.key)
  else state

end State

inductive Occurrence where
  | observed (event : Event)
  | landed (flight : Flight)
  | started (reference : Reference)

namespace State

def nextEvent (state : State) : List (Nat × Occurrence) :=
  state.coming.head?.toList.map fun event => (event.time, .observed event)

def landings (scenario : Scenario) (state : State) : List (Nat × Occurrence) :=
  state.flights.map fun flight => (flight.sent + scenario.latency, .landed flight)

/-- The passes that may start as soon as their time has come. -/
def starts (scenario : Scenario) (state : State) : List (Nat × Occurrence) :=
  if state.flights.length < scenario.settings.concurrency.toNat then
    let ready := state.queue.filter fun entry => !state.isRunning entry.1
    ready.map fun entry => (max state.now entry.2, .started entry.1)
  else []

/-- The entry with the smallest time; of several, the one that stands first. -/
def earliest? : List (Nat × α) → Option (Nat × α)
  | [] => none
  | entry :: rest =>
      match earliest? rest with
      | some later => if later.1 < entry.1 then some later else some entry
      | none => some entry

/-- What happens next: of what is due at the same time, events come first and starts last. -/
def next? (scenario : Scenario) (state : State) : Option (Nat × Occurrence) :=
  earliest? (state.nextEvent ++ state.landings scenario ++ state.starts scenario)

def happen (scenario : Scenario) (time : Nat) (occurrence : Occurrence) (state : State) : State :=
  let state := { state with now := time }
  match occurrence with
  | .observed event => { state.observe event with coming := state.coming.tail }
  | .landed flight => state.land scenario flight
  | .started reference => state.start scenario reference

/-- Goes on until the deadline, or until nothing is left to happen. -/
def runFor (scenario : Scenario) : Nat → State → State
  | 0, state => state
  | steps + 1, state =>
      match state.next? scenario with
      | none => state
      | some (time, occurrence) =>
          if time < scenario.deadline then
            runFor scenario steps (state.happen scenario time occurrence)
          else state

end State

namespace Scenario

/-- More steps than a run can take: an object, or an event, makes at most one pass start at once and
then one in every second; and a pass takes ten steps. -/
def stepBound (scenario : Scenario) : Nat :=
  let objects := (Kind.all.flatMap fun kind => (scenario.cluster.store kind).keys).length
  16 * (objects + scenario.events.length + 1) * (scenario.deadline / 1000 + 2)

/-- A controller goes by normalized settings, and events come in the order of their times. -/
def normalized (scenario : Scenario) : Scenario :=
  { scenario with
    settings := scenario.settings.normalized
    events := scenario.events.mergeSort fun left right => left.time ≤ right.time }

def run (scenario : Scenario) : State :=
  (State.initial scenario.normalized).runFor scenario.normalized scenario.stepBound

def watchRequests (scenario : Scenario) : List String :=
  let namespaceName := scenario.normalized.settings.watchNamespace
  Kind.all.flatMap fun kind =>
    [kind.listRequest namespaceName, kind.watchRequest namespaceName "1"]

end Scenario

end ServerOperator.Controller
