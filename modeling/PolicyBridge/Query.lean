import PolicyBridge.Dispatch.Answering
import PolicyBridge.Engine.Basic
import PolicyBridge.ResultSet
import PolicyBridge.Telemetry
/-!
Running one query: the engine is polled for events, what it asks the host is answered, and each
solution is given out. The engine's query and the ids drawn for it are released once, by whatever
ends it first.
-/

namespace PolicyBridge

inductive QueryState where
  | idle
  | waitingEvent
  | awaitingHostResponse
  | done
  | errored
deriving DecidableEq

def QueryState.name : QueryState → String
  | .idle => "Idle"
  | .waitingEvent => "WaitingEvent"
  | .awaitingHostResponse => "AwaitingHostResponse"
  | .done => "Done"
  | .errored => "Errored"

def QueryState.isTerminal : QueryState → Bool
  | .done => true
  | .errored => true
  | _ => false

structure Shared (E Obj : Type) where
  host : Host E Obj
  telemetry : Option Telemetry

structure Query (Q Obj : Type) where
  handle : Q
  own : Dispatcher Obj
  state : QueryState
  released : Bool

structure Run (E Q Obj : Type) where
  shared : Shared E Obj
  query : Query Q Obj

abbrev Running (E Q Obj α : Type) := StateM (Run E Q Obj) α

abbrev Item (Obj : Type) := Except Error (ResultSet Obj)

/-- What asking for the next solution comes to; `pending` when the polls allowed are used up. -/
inductive Progress (Obj : Type) where
  | item (i : Item Obj)
  | finished
  | pending

namespace Shared

variable {E Obj : Type}

def record (f : Telemetry → Telemetry) (s : Shared E Obj) : Shared E Obj :=
  { s with telemetry := s.telemetry.map f }

end Shared

namespace Query

variable {E Q Obj : Type} [Engine E Q]

def begin (handle : Q) (own : Dispatcher Obj) : Query Q Obj := ⟨handle, own, .idle, false⟩

def setState (s : QueryState) : Running E Q Obj Unit :=
  modify fun r => { r with query := { r.query with state := s } }

def record (f : Telemetry → Telemetry) : Running E Q Obj Unit :=
  modify fun r => { r with shared := r.shared.record f }

def engine (m : Q → StateM E α) : Running E Q Obj α := fun r =>
  let (a, e) := m r.query.handle r.shared.host.source
  (a, { r with shared := { r.shared with host := { r.shared.host with source := e } } })

def work (r : Run E Q Obj) : Work E Obj := ⟨r.shared.host, r.query.own⟩

def withWork (r : Run E Q Obj) (w : Work E Obj) : Run E Q Obj :=
  ⟨{ r.shared with host := w.host }, { r.query with own := w.own }⟩

def dispatch (e : Event) : Running E Q Obj (Except Error (Option Answer)) := fun r =>
  let (a, w) := Dispatching.dispatch e (work r)
  (a, withWork r w)

def freeHandle : Running E Q Obj Unit := do
  let h ← engine fun q => (Engine.free q : StateM E Q)
  modify fun r => { r with query := { r.query with handle := h, released := true } }

def release (outcome : QueryOutcome) : Running E Q Obj Unit := do
  unless (← get).query.released do
    freeHandle
    modify fun r => withWork r (work r).close
    record fun t => t.recordFinished outcome 0

def fail (e : Error) : Running E Q Obj Error := do
  setState .errored
  release .errored
  return e

def recoverOrFail (e : Error) : Running E Q Obj Error := do
  if e.isQueryFatal then fail e
  else
    setState .waitingEvent
    return e

def isApplication : Error → Bool
  | .application .. => true
  | _ => false

def answer (event : Event) : Running E Q Obj (Except Error Unit) := do
  match ← dispatch event with
  | .ok none => return .ok ()
  | .ok (some a) =>
    match ← engine fun q => (Engine.answerCall q a.callId a.result).run with
    | .ok () => return .ok ()
    | .error f => return .error f.queryError
  | .error e =>
    if isApplication e then record Telemetry.recordApplicationError
    let _ ← engine fun q => (Engine.answerApplicationError q e.display).run
    return .error e

def solution (bindings : Bindings) : Running E Q Obj (Item Obj) := do
  match Marshal.fromBindings (← get).shared.host.registry bindings with
  | .ok values =>
    record Telemetry.recordResult
    return .ok ⟨values⟩
  | .error e => return .error (← recoverOrFail e)

def onEvent (event : Event) : Running E Q Obj (Option (Progress Obj)) := do
  match event with
  | .done _ =>
    setState .done
    release .completed
    return some .finished
  | .result bindings _ => return some (.item (← solution bindings))
  | event =>
    setState .awaitingHostResponse
    record Telemetry.recordExternalCall
    match ← answer event with
    | .ok () => return none
    | .error e => return some (.item (.error (← recoverOrFail e)))

def poll : Running E Q Obj (Option (Progress Obj)) := do
  setState .waitingEvent
  match ← engine fun q => (Engine.nextEvent q).run with
  | .ok event => onEvent event
  | .error f => return some (.item (.error (← fail f.queryError)))

def pollUpTo : Nat → Running E Q Obj (Progress Obj)
  | 0 => return .pending
  | n + 1 => do
    match ← poll with
    | some p => return p
    | none => pollUpTo n

def next (polls : Nat) : Running E Q Obj (Progress Obj) := do
  if (← get).query.state.isTerminal then return .finished
  else pollUpTo polls

def close : Running E Q Obj Unit := do
  unless (← get).query.state.isTerminal do setState .done
  release .abandoned

/-- Gives up the query; its state stays as it is. -/
def drop : Running E Q Obj Unit := release .abandoned

def display (id : String) (q : Query Q Obj) : String :=
  "Query \x7b id: " ++ id ++ ", state: " ++ q.state.name ++ " \x7d"

end Query

end PolicyBridge
