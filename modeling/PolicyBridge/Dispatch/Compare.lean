import PolicyBridge.Event.Basic
import PolicyBridge.Marshal

namespace PolicyBridge.Registry

variable {Obj : Type}

def noClass (i : Instance Obj) : Error :=
  .protocol ("no class registered for instances of " ++ i.hostType.name)

def classOf (r : Registry Obj) (i : Instance Obj) : Except Error (Class Obj) :=
  match r.classFor? i with
  | some c => .ok c
  | none => .error (noClass i)

def untestable (t : Term) (tag : String) : Error :=
  .protocol ("cannot test a " ++ t.kind ++ " against class " ++ tag)

def isa (r : Registry Obj) (t : Term) (tag : String) : Except Error Bool :=
  match t with
  | .external id _ _ _ => do
    let i ← r.lookup id
    return match r.classFor? i with
      | some c => c.isSubclassOf tag
      | none => false
  | .integer _ => .ok (tag = "Integer")
  | .float _ => .ok (tag = "Float")
  | .string _ => .ok (tag = "String")
  | .boolean _ => .ok (tag = "Boolean")
  | .list .. => .ok (tag = "List")
  | .dictionary _ => .ok (tag = "Dictionary")
  | t => .error (untestable t tag)

def isSubSpecializer (r : Registry Obj) (id : UInt64) (left right : String) :
    Except Error Bool := do
  let i ← r.lookup id
  return match r.classFor? i with
    | none => false
    | some c =>
      match c.specificity left, c.specificity right with
      | some l, some r => l < r
      | _, _ => false

def isSubclass (r : Registry Obj) (left right : String) : Bool :=
  left = right ||
    match r.class? left with
    | some c => c.isSubclassOf right
    | none => false

def instancesEqual (r : Registry Obj) (left right : Instance Obj) : Except Error Bool :=
  if left.sameObject right then .ok true
  else match r.classFor? left with
    | none => .ok false
    | some c =>
      match c.equality with
      | none => .ok false
      | some eq => (eq left right).guarded c.name "=="

def unify (r : Registry Obj) (left right : UInt64) : Except Error Bool := do
  let left ← r.lookup left
  let right ← r.lookup right
  r.instancesEqual left right

end PolicyBridge.Registry

namespace PolicyBridge

/-- Whether an operator holds of operands that compare so; without an order only `neq` does. -/
def Operator.holds : Operator → Option Ordering → Bool
  | .eq, o => o = some .eq
  | .neq, o => o ≠ some .eq
  | _, none => false
  | .lt, some o => o = .lt
  | .leq, some o => o ≠ .gt
  | .gt, some o => o = .gt
  | .geq, some o => o ≠ .lt

def HostValue.compareScalars? {Obj : Type} :
    HostValue Obj → HostValue Obj → Option (Option Ordering)
  | .integer i, .integer j => some (some (compare i j))
  | .integer i, .float y => some (compareFloats (floatOfInteger i) y)
  | .float x, .integer j => some (compareFloats x (floatOfInteger j))
  | .float x, .float y => some (compareFloats x y)
  | .string s, .string t => some (some (compare s t))
  | .boolean a, .boolean b => some (some (compare a b))
  | _, _ => none

namespace Registry

variable {Obj : Type}

def unordered (c : Class Obj) : Error :=
  .protocol ("instances of " ++ c.name ++ " are not ordered")

def compareInstances (r : Registry Obj) (o : Operator) (left right : Instance Obj) :
    Except Error Bool :=
  match o with
  | .eq => r.instancesEqual left right
  | .neq => do return !(← r.instancesEqual left right)
  | o => do
    let c ← r.classOf left
    match c.ordering with
    | none => .error (unordered c)
    | some cmp => return o.holds (← (cmp left right).guarded c.name "<")

def incomparable (o : Operator) (left right : HostValue Obj) : Error :=
  .protocol ("cannot compare " ++ left.kind ++ " with " ++ right.kind ++ " using " ++ o.name)

def compareValues (r : Registry Obj) (o : Operator) (left right : HostValue Obj) :
    Except Error Bool :=
  match left, right with
  | .object l, .object r' => r.compareInstances o l r'
  | left, right =>
    match left.compareScalars? right with
    | some ordering => .ok (o.holds ordering)
    | none =>
      match o with
      | .eq => .ok (left == right)
      | .neq => .ok (!(left == right))
      | o => .error (incomparable o left right)

def wrongOperandCount (o : Operator) (n : Nat) : Error :=
  .protocol (o.name ++ " takes two operands, got " ++ toString n)

def compareTerms (r : Registry Obj) (o : Operator) : List Term → Except Error Bool
  | [left, right] => do
    let left ← Marshal.fromTerm r left
    let right ← Marshal.fromTerm r right
    r.compareValues o left right
  | args => .error (wrongOperandCount o args.length)

end Registry

end PolicyBridge
