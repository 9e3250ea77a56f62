import Mathlib.Tactic
import PolicyBridge.Proofs.Query.Steps
import PolicyBridge.Proofs.Recording

/-! The history of one query: what is done with it act by act, and what it exchanges with its engine
in each. Between its acts others may change what it shares with them. -/

namespace PolicyBridge

variable {E Q Obj α β : Type}

inductive Use (E Obj : Type) where
  | next (polls : Nat)
  | close
  | meanwhile (f : Shared E Obj → Shared E Obj)

inductive Act (E Obj : Type) where
  | use (u : Use E Obj)
  | drop

namespace Shared

def plain (s : Shared (Recorded E) Obj) : Shared E Obj :=
  ⟨⟨s.host.source.inner, s.host.registry, s.host.cache⟩, s.telemetry⟩

def recorded (record : List Exchange) (s : Shared E Obj) : Shared (Recorded E) Obj :=
  ⟨⟨⟨s.host.source, record⟩, s.host.registry, s.host.cache⟩, s.telemetry⟩

end Shared

namespace Run

def record (r : Run (Recorded E) Q Obj) : List Exchange := r.shared.host.source.record

def launch (handle : Q) (own : Dispatcher Obj) (shared : Shared E Obj) : Run (Recorded E) Q Obj :=
  ⟨shared.recorded [], Query.begin handle own⟩

end Run

/-- One act, what it answered, what was exchanged in it, and what it led to. -/
structure Leg (E Q Obj : Type) where
  act : Act E Obj
  answer : Option (Progress Obj)
  exchanges : List Exchange
  after : Run (Recorded E) Q Obj

namespace Query

variable [Engine E Q]

def perform : Act E Obj → Running (Recorded E) Q Obj (Option (Progress Obj))
  | .use (.next polls) => do return some (← next polls)
  | .use .close => do
    close
    return none
  | .use (.meanwhile f) => do
    modify fun r => { r with shared := (f r.shared.plain).recorded r.record }
    return none
  | .drop => do
    drop
    return none

def leg (a : Act E Obj) (r : Run (Recorded E) Q Obj) : Leg E Q Obj where
  act := a
  answer := (perform a r).1
  exchanges := (perform a r).2.record.drop r.record.length
  after := (perform a r).2

def legs : List (Act E Obj) → Run (Recorded E) Q Obj → List (Leg E Q Obj)
  | [], _ => []
  | a :: acts, r => leg a r :: legs acts (leg a r).after

lemma exchanges_leg {a : Act E Obj} {r : Run (Recorded E) Q Obj} {xs : List Exchange}
    (h : (perform a r).2.record = r.record ++ xs) : (leg a r).exchanges = xs := by
  change (perform a r).2.record.drop r.record.length = xs
  rw [h, List.drop_left]

end Query

end PolicyBridge
