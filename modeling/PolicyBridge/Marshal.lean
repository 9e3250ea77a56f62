import PolicyBridge.Registry
import PolicyBridge.Json.Fields
import PolicyBridge.Term.Basic
/-!
Host values to terms and back. Objects cross as ids only. Ids drawn on the way out are kept in a
list, so that whoever drew them can release them, also after a failure part way.
-/

namespace PolicyBridge

/-- What marshaling draws on: an id source, the registry, and the ids drawn so far. -/
structure Desk (S Obj : Type) where
  source : S
  registry : Registry Obj
  allocated : List UInt64

abbrev Marshaling (S Obj α : Type) := ExceptT Error (StateM (Desk S Obj)) α

namespace Marshal

variable {S Obj : Type}

def floatText (x : Float) : String :=
  if x.isNaN then "NaN" else if x < 0 then "-inf" else "inf"

def nonFinite (x : Float) : Error :=
  .marshal ("non-finite float " ++ floatText x ++ " cannot cross the boundary") (some "Float")

def releasedInstance (id : UInt64) : Error :=
  .resource ("instance id " ++ toString id ++ " was released") (some id)

def openList (rest : String) : Error :=
  .marshal ("list with unbound rest variable " ++ rest ++ " has no host value") (some "List")

def noHostForm (t : Term) : Error :=
  .marshal (t.kind ++ " terms have no host representation") (some t.kind)

def classRepr (r : Registry Obj) (i : Instance Obj) : String :=
  match r.classFor? i with
  | some c => c.name
  | none => i.hostType.name

def enlist [IdSource S] (i : Instance Obj) : Marshaling S Obj UInt64 := fun d =>
  let (id, source) := IdSource.next d.source
  (.ok id, ⟨source, d.registry.register id i .query, d.allocated ++ [id]⟩)

def idOf [IdSource S] (i : Instance Obj) : Marshaling S Obj UInt64 := do
  match i.id with
  | none => enlist i
  | some id => if (← get).registry.holds id i then return id else throw (releasedInstance id)

def objectTerm [IdSource S] (i : Instance Obj) : Marshaling S Obj Term := do
  let id ← idOf i
  return .external id none none (some (classRepr (← get).registry i))

mutual

def toTerm [IdSource S] : HostValue Obj → Marshaling S Obj Term
  | .integer i => return .integer i
  | .float x => if x.isFinite then return .float x else throw (nonFinite x)
  | .string s => return .string s
  | .boolean b => return .boolean b
  | .list items => return .list (← toTerms items) none
  | .map fields => return .dictionary (← toFields fields)
  | .var name => return .var name
  | .object i => objectTerm i

def toTerms [IdSource S] : List (HostValue Obj) → Marshaling S Obj (List Term)
  | [] => return []
  | v :: vs => do
    let t ← toTerm v
    return t :: (← toTerms vs)

def toFields [IdSource S] : List (String × HostValue Obj) → Marshaling S Obj (List (String × Term))
  | [] => return []
  | (k, v) :: fs => do
    let t ← toTerm v
    return (k, t) :: (← toFields fs)

end

mutual

def fromTerm (r : Registry Obj) : Term → Except Error (HostValue Obj)
  | .integer i => .ok (.integer i)
  | .float x => .ok (.float x)
  | .string s => .ok (.string s)
  | .boolean b => .ok (.boolean b)
  | .list elements none => do return .list (← fromTerms r elements)
  | .list _ (some rest) => .error (openList rest)
  | .dictionary fields => do return .map (← fromFields r fields)
  | .external id _ _ _ => do return .object (← r.lookup id)
  | .var name => .ok (.var name)
  | .literal tag fields => .error (noHostForm (.literal tag fields))
  | .dictionaryPattern fields => .error (noHostForm (.dictionaryPattern fields))
  | .instancePattern tag fields => .error (noHostForm (.instancePattern tag fields))
  | .call name args kwargs => .error (noHostForm (.call name args kwargs))

def fromTerms (r : Registry Obj) : List Term → Except Error (List (HostValue Obj))
  | [] => .ok []
  | t :: ts => do
    let v ← fromTerm r t
    return v :: (← fromTerms r ts)

def fromFields (r : Registry Obj) :
    List (String × Term) → Except Error (List (String × HostValue Obj))
  | [] => .ok []
  | (k, t) :: fs => do
    let v ← fromTerm r t
    return (k, v) :: (← fromFields r fs)

end

def toBindings [IdSource S] (values : List (String × HostValue Obj)) :
    Marshaling S Obj Bindings := do
  return Dict.ofList (← toFields values)

def fromBindings (r : Registry Obj) (bindings : Bindings) :
    Except Error (Dict String (HostValue Obj)) :=
  fromFields r bindings

def releaseAll (r : Registry Obj) (ids : List UInt64) : Registry Obj := ids.foldl Registry.discard r

def liveCount (r : Registry Obj) : List UInt64 → Nat
  | [] => 0
  | id :: ids => (if r.entries.contains id then 1 else 0) + liveCount (r.discard id) ids

end Marshal

end PolicyBridge
