import PolicyBridge.Cache
import PolicyBridge.Marshal

namespace PolicyBridge

structure Answer where
  callId : UInt64
  result : Option Term

structure Host (S Obj : Type) where
  source : S
  registry : Registry Obj
  cache : Option Cache

structure Cursor (Obj : Type) where
  steps : Steps Obj
  position : Nat

/-- What one query owns: the ids it allocated, and its open iterators by call. -/
structure Dispatcher (Obj : Type) where
  allocated : List UInt64
  iterators : Dict UInt64 (Cursor Obj)

/-- One query's dispatcher at work on the host. -/
structure Work (S Obj : Type) where
  host : Host S Obj
  own : Dispatcher Obj

abbrev Dispatching (S Obj α : Type) := ExceptT Error (StateM (Work S Obj)) α

namespace Dispatcher

variable {S Obj : Type}

def fresh : Dispatcher Obj := ⟨[], []⟩

def openIterators (d : Dispatcher Obj) : Nat := d.iterators.length

def adopt (d : Dispatcher Obj) (id : UInt64) : Dispatcher Obj :=
  { d with allocated := d.allocated ++ [id] }

end Dispatcher

namespace Work

variable {S Obj : Type}

def registry (w : Work S Obj) : Registry Obj := w.host.registry

def desk (w : Work S Obj) : Desk S Obj := ⟨w.host.source, w.host.registry, w.own.allocated⟩

def withDesk (w : Work S Obj) (d : Desk S Obj) : Work S Obj :=
  ⟨{ w.host with source := d.source, registry := d.registry }, { w.own with allocated := d.allocated }⟩

def close (w : Work S Obj) : Work S Obj :=
  ⟨{ w.host with registry := Marshal.releaseAll w.host.registry w.own.allocated }, .fresh⟩

def releasable (w : Work S Obj) : Nat := Marshal.liveCount w.host.registry w.own.allocated

end Work

namespace Dispatching

variable {S Obj : Type}

def marshal (m : Marshaling S Obj α) : Dispatching S Obj α := fun w =>
  let (r, d) := m w.desk
  (r, w.withDesk d)

def registry : Dispatching S Obj (Registry Obj) := return (← get).registry

def setRegistry (r : Registry Obj) : Dispatching S Obj Unit :=
  modify fun w => { w with host := { w.host with registry := r } }

def lift (e : Except Error α) : Dispatching S Obj α := ExceptT.mk (pure e)

end Dispatching

end PolicyBridge
