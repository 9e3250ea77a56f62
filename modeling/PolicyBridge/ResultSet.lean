import PolicyBridge.Value.Shape

namespace PolicyBridge

structure ResultSet (Obj : Type) where
  bindings : Dict String (HostValue Obj)

namespace ResultSet

variable {Obj : Type}

def unbound (name : String) : Error := .marshal ("no binding for variable " ++ name) none

def get (r : ResultSet Obj) (s : Shape) (name : String) : Except Error (s.Carrier Obj) :=
  match r.bindings.find? name with
  | some v => s.fetch v
  | none => .error (unbound name)

def json (r : ResultSet Obj) : Json := .object (HostValue.jsonFields r.bindings)

end ResultSet

end PolicyBridge
