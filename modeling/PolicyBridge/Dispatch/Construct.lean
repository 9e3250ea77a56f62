import PolicyBridge.Dispatch.Member

namespace PolicyBridge.Dispatching

variable {S Obj : Type}

def notACall (t : Term) : Error := .protocol ("constructor must be a call, got " ++ t.kind)

def unknownClass (name : String) : Error := .protocol ("unknown class " ++ name)

def notConstructible (name : String) : Error :=
  .protocol ("class " ++ name ++ " cannot be constructed from policy")

def namedClass (r : Registry Obj) (name : String) : Except Error (Class Obj) :=
  match r.class? name with
  | some c => .ok c
  | none => .error (unknownClass name)

def constructorOf (c : Class Obj) (name : String) : Except Error (Args Obj → Outcome Obj) :=
  match c.construct with
  | some f => .ok f
  | none => .error (notConstructible name)

def construct (r : Registry Obj) : Term → Except Error (Instance Obj × Registry Obj)
  | .call name args kwargs => do
    refuseKeywords kwargs name
    let c ← namedClass r name
    let f ← constructorOf c name
    let args ← Marshal.fromTerms r args
    let o ← (f args).guarded c.name "new"
    return r.build o c.receiver
  | t => .error (notACall t)

def makeExternal (id : UInt64) (t : Term) : Dispatching S Obj Unit := do
  let (i, r) ← lift (construct (← registry) t)
  setRegistry (← lift (r.registerWithId id i .query))
  modify fun w => { w with own := w.own.adopt id }

end PolicyBridge.Dispatching
