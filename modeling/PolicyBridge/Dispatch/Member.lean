import PolicyBridge.Dispatch.Basic
import PolicyBridge.Dispatch.Compare
/-!
Members of host objects: found on the first class of the receiver's order that defines them, and
run there. A found place is remembered while its class stays registered.
-/

namespace PolicyBridge

/-- The kind under which a class defines a member; an attribute may be given by a method. -/
def Class.defines? {Obj : Type} (c : Class Obj) (member : String) (kind : MemberKind) :
    Option MemberKind :=
  if kind = .attribute ∧ c.hasAttribute member then some .attribute
  else if c.hasMethod member then some .method
  else none

namespace Registry

variable {Obj : Type}

def findMember? (r : Registry Obj) (member : String) (kind : MemberKind) :
    List String → Option (Class Obj × MemberKind)
  | [] => none
  | name :: order =>
    match r.class? name with
    | none => findMember? r member kind order
    | some c =>
      match c.defines? member kind with
      | some found => some (c, found)
      | none => findMember? r member kind order

end Registry

namespace Dispatching

variable {S Obj : Type}

def noMember (className what member : String) : Error :=
  .protocol (className ++ " has no " ++ what ++ " " ++ member)

def MemberKind.word : MemberKind → String
  | .attribute => "attribute"
  | .method => "method"

def remembered (k : Lookup) : Dispatching S Obj (Option (Class Obj × MemberKind)) := fun w =>
  match w.host.cache with
  | none => (.ok none, w)
  | some cache =>
    let (found, cache) := cache.get k
    let w := { w with host := { w.host with cache := some cache } }
    (.ok (found.bind fun f => (w.registry.class? f.className).map fun c => (c, f.kind)), w)

def remember (k : Lookup) (r : Resolution) : Dispatching S Obj Unit :=
  modify fun w => { w with host := { w.host with cache := w.host.cache.map fun c => c.put k r } }

def resolve (c : Class Obj) (member : String) (kind : MemberKind) :
    Dispatching S Obj (Class Obj × MemberKind) := do
  let k : Lookup := ⟨c.name, member, kind⟩
  match ← remembered k with
  | some found => return found
  | none =>
    match (← registry).findMember? member kind c.order with
    | some (owner, found) =>
      remember k ⟨owner.name, found⟩
      return (owner, found)
    | none => throw (noMember c.name (MemberKind.word kind) member)

def runMember (owner : Class Obj) (member : String) (kind : MemberKind) (receiver : Instance Obj)
    (args : Args Obj) : Except Error (HostValue Obj) :=
  match kind with
  | .attribute =>
    match owner.attributes.find? member with
    | some getter => (getter receiver).guarded owner.name member
    | none => .error (noMember owner.name "attribute" member)
  | .method =>
    match owner.methods.find? member with
    | some method => (method receiver args).guarded owner.name member
    | none => .error (noMember owner.name "method" member)

def keywordsRefused (member : String) : Error :=
  .protocol ("keyword arguments are not supported (calling " ++ member ++ ")")

def refuseKeywords (kwargs : Option (Dict String Term)) (member : String) : Except Error Unit :=
  match kwargs with
  | some (_ :: _) => .error (keywordsRefused member)
  | _ => .ok ()

def noReceiver (member : String) (v : HostValue Obj) : Error :=
  .protocol ("cannot look up " ++ member ++ " on a " ++ v.kind)

def receiver (member : String) (v : HostValue Obj) : Except Error (Instance Obj) :=
  match v with
  | .object i => .ok i
  | v => .error (noReceiver member v)

def callMember [IdSource S] (t : Term) (member : String) (args : Option (List Term))
    (kwargs : Option (Dict String Term)) : Dispatching S Obj Term := do
  lift (refuseKeywords kwargs member)
  let r ← registry
  let i ← lift ((Marshal.fromTerm r t).bind (receiver member))
  let c ← lift (r.classOf i)
  let args' ← match args with
    | none => pure []
    | some args => lift (Marshal.fromTerms r args)
  let kind := if args.isNone then MemberKind.attribute else .method
  let (owner, found) ← resolve c member kind
  let v ← lift (runMember owner member found i args')
  marshal (Marshal.toTerm v)

end Dispatching

end PolicyBridge
