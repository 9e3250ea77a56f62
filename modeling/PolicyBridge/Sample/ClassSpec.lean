import PolicyBridge.Sample.Object
import PolicyBridge.Session.Basic

namespace PolicyBridge.Sample

instance : ClassObject Object := ⟨.classObject, classObjectType⟩

inductive ConstructorSpec where
  | panic (message : Option String)
  | raise (e : Error)
  | fields (fields : List (String × Shape))

structure ClassSpec where
  name : String
  receiver : Option ReceiverType
  construct : Option ConstructorSpec
  attributes : Dict String Behaviour
  methods : Dict String Behaviour
  instanceMethods : Dict String Behaviour
  specializers : Option (List String)
  iterates : Bool
  compares : Bool
  orders : Bool

namespace ConstructorSpec

def takeField (args : Args Object) (taken : Dict String (HostValue Object))
    (f : (String × Shape) × Nat) : Except Error (Dict String (HostValue Object)) := do
  let v ← f.1.2.store (← args.get f.1.2 f.2)
  return taken.insert f.1.1 v

def run (t : ReceiverType) (c : ConstructorSpec) (args : Args Object) : Outcome Object :=
  match c with
  | .panic message => .panicked message
  | .raise e => .failed e
  | .fields fs =>
    Outcome.ofExcept ((fs.zipIdx.foldlM (takeField args) []).map fun taken =>
      Object.make t taken [])

end ConstructorSpec

namespace ClassSpec

def addAttributes (s : ClassSpec) (c : Class Object) : Class Object :=
  s.attributes.foldl (fun c m => c.addAttribute m.1 fun o => m.2.run ⟨some o, none, []⟩) c

def addMethods (s : ClassSpec) (c : Class Object) : Class Object :=
  s.methods.foldl (fun c m => c.addMethod m.1 fun o args => m.2.run ⟨some o, none, args⟩) c

def addInstanceMethods (s : ClassSpec) (c : Class Object) : Class Object :=
  s.instanceMethods.foldl
    (fun c m => c.addInstanceMethod m.1 fun i args => m.2.run ⟨some i.object, some i, args⟩) c

def applyIf (b : Bool) (f : Class Object → Class Object) (c : Class Object) : Class Object :=
  if b then f c else c

def receiverType (s : ClassSpec) : ReceiverType := s.receiver.getD .unit

def start (s : ClassSpec) : Class Object :=
  match s.receiver with
  | some t => Class.forType s.name t.hostType
  | none => Class.abstractOf s.name

def addConstructor (s : ClassSpec) (c : Class Object) : Class Object :=
  match s.construct with
  | some f => c.withConstructor (f.run s.receiverType)
  | none => c

def addSpecializers (s : ClassSpec) (c : Class Object) : Class Object :=
  match s.specializers with
  | some parents => c.withSpecializers parents
  | none => c

def build (s : ClassSpec) : Class Object :=
  let c := s.addInstanceMethods (s.addMethods (s.addAttributes (s.addConstructor s.start)))
  applyIf s.orders (·.withOrdering Object.order)
    (applyIf s.compares (·.withEquality Object.equal)
      (applyIf s.iterates (·.withIterator Object.steps) (s.addSpecializers c)))

end ClassSpec

end PolicyBridge.Sample
