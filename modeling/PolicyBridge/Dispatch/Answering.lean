import PolicyBridge.Dispatch.Construct
import PolicyBridge.Dispatch.Iterate

namespace PolicyBridge.Dispatching

variable {S Obj : Type}

def notExternal (e : Event) : Error := .protocol (e.kind ++ " is not an external event")

def boolean (callId : UInt64) (b : Bool) : Option Answer := some ⟨callId, some (.boolean b)⟩

def dispatch [IdSource S] (e : Event) : Dispatching S Obj (Option Answer) := do
  match e with
  | .makeExternal id t => do
    makeExternal id t
    return none
  | .externalCall callId t member args kwargs =>
    return some ⟨callId, some (← callMember t member args kwargs)⟩
  | .externalIsa callId t tag => return boolean callId (← lift ((← registry).isa t tag))
  | .externalIsSubSpecializer callId id left right =>
    return boolean callId (← lift ((← registry).isSubSpecializer id left right))
  | .externalIsSubclass callId left right =>
    return boolean callId ((← registry).isSubclass left right)
  | .externalUnify callId left right =>
    return boolean callId (← lift ((← registry).unify left right))
  | .externalOp callId o args => return boolean callId (← lift ((← registry).compareTerms o args))
  | .nextExternal callId iterable => return some ⟨callId, ← nextExternal callId iterable⟩
  | .done r => throw (notExternal (.done r))
  | .result bindings trace => throw (notExternal (.result bindings trace))

end PolicyBridge.Dispatching
