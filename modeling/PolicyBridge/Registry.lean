import PolicyBridge.Class
/-!
The classes the engine can name and the host objects it knows by id. A class is found by its name
and by the type of an object; an object is live under its id until it is released.
-/

namespace PolicyBridge

inductive Owner where
  | host
  | query
deriving DecidableEq

structure Entry (Obj : Type) where
  object : Instance Obj
  owner : Owner

def Entry.reference {Obj : Type} (id : UInt64) (e : Entry Obj) : Instance Obj :=
  match e.owner with
  | .host => e.object.withId id
  | .query => e.object

structure Registry (Obj : Type) where
  byName : Dict String (Class Obj)
  byType : Dict String String
  entries : Dict UInt64 (Entry Obj)
  built : Nat

class IdSource (S : Type) where
  next : S → UInt64 × S

namespace Registry

variable {Obj : Type}

def empty : Registry Obj := ⟨[], [], [], 0⟩

def class? (r : Registry Obj) (name : String) : Option (Class Obj) := r.byName.find? name

def classFor? (r : Registry Obj) (i : Instance Obj) : Option (Class Obj) :=
  (r.byType.find? i.hostType.name).bind r.class?

def classNames (r : Registry Obj) : List String := r.byName.keys

/-- The type of a replaced class is no longer bound to the name. -/
def unbind (byType : Dict String String) (old : Class Obj) : Dict String String :=
  match old.objectType with
  | none => byType
  | some t => if byType.find? t.name = some old.name then byType.erase t.name else byType

def bind (byType : Dict String String) (c : Class Obj) : Dict String String :=
  match c.objectType with
  | none => byType
  | some t => byType.insert t.name c.name

def registerClass (r : Registry Obj) (c : Class Obj) : Registry Obj :=
  let byType := match r.class? c.name with
    | none => r.byType
    | some old => unbind r.byType old
  { r with byName := r.byName.insert c.name c, byType := bind byType c }

def register (r : Registry Obj) (id : UInt64) (i : Instance Obj) (owner : Owner) : Registry Obj :=
  { r with entries := r.entries.insert id ⟨i, owner⟩ }

def alreadyRegistered (id : UInt64) : Error :=
  .resource ("instance id " ++ toString id ++ " is already registered") (some id)

def unknownInstance (id : UInt64) : Error :=
  .resource ("unknown or released instance id " ++ toString id) (some id)

def notRegistered (id : UInt64) : Error :=
  .resource ("instance id " ++ toString id ++ " is not registered or was already released")
    (some id)

def registerWithId (r : Registry Obj) (id : UInt64) (i : Instance Obj) (owner : Owner) :
    Except Error (Registry Obj) :=
  if r.entries.contains id then .error (alreadyRegistered id) else .ok (r.register id i owner)

def lookup (r : Registry Obj) (id : UInt64) : Except Error (Instance Obj) :=
  match r.entries.find? id with
  | some e => .ok (e.reference id)
  | none => .error (unknownInstance id)

def holds (r : Registry Obj) (id : UInt64) (i : Instance Obj) : Bool :=
  match r.entries.find? id with
  | some e => e.object.sameObject i
  | none => false

def release (r : Registry Obj) (id : UInt64) : Except Error (Instance Obj × Registry Obj) :=
  match r.entries.find? id with
  | some e => .ok (e.object, { r with entries := r.entries.erase id })
  | none => .error (notRegistered id)

def discard (r : Registry Obj) (id : UInt64) : Registry Obj :=
  { r with entries := r.entries.erase id }

def count (r : Registry Obj) : Nat := r.entries.length

def build (r : Registry Obj) (o : Obj) (t : HostType) : Instance Obj × Registry Obj :=
  (⟨o, t, .built r.built, none⟩, { r with built := r.built + 1 })

def display (r : Registry Obj) : String :=
  "Registry \x7b classes: " ++ Text.quotedList r.classNames ++ ", instances: " ++
    toString r.count ++ " \x7d"

end Registry

structure Counter where
  upcoming : UInt64

instance : IdSource Counter := ⟨fun c => (c.upcoming, ⟨c.upcoming + 1⟩)⟩

end PolicyBridge
