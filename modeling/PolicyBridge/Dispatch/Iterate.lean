import PolicyBridge.Dispatch.Member
/-!
Iteration over host values, one step a call. An iterator is opened by the first call with its id
and closed by the one that finds it exhausted; a step that fails is taken all the same.
-/

namespace PolicyBridge.Dispatching

variable {S Obj : Type}

def notIterable (c : Class Obj) : Error :=
  .protocol ("instances of " ++ c.name ++ " are not iterable")

def noIterator (v : HostValue Obj) : Error := .protocol ("a " ++ v.kind ++ " is not iterable")

def stepsOf (r : Registry Obj) : HostValue Obj → Except Error (Steps Obj)
  | .list items => .ok fun n => (items[n]?).map .value
  | .object i => do
    let c ← r.classOf i
    match c.iterator with
    | none => .error (notIterable c)
    | some hook => (hook i).guarded c.name "__iter__"
  | v => .error (noIterator v)

def setIterators (its : Dict UInt64 (Cursor Obj)) : Dispatching S Obj Unit :=
  modify fun w => { w with own := { w.own with iterators := its } }

def cursor (callId : UInt64) (iterable : Term) : Dispatching S Obj (Cursor Obj) := do
  match (← get).own.iterators.find? callId with
  | some c => return c
  | none => do
    let r ← registry
    let steps ← lift ((Marshal.fromTerm r iterable).bind (stepsOf r))
    return ⟨steps, 0⟩

def nextExternal [IdSource S] (callId : UInt64) (iterable : Term) :
    Dispatching S Obj (Option Term) := do
  let c ← cursor callId iterable
  let its := (← get).own.iterators
  match c.steps c.position with
  | none =>
    setIterators (its.erase callId)
    return none
  | some o =>
    setIterators (its.insert callId { c with position := c.position + 1 })
    let v ← lift (o.guarded "iterator" "next")
    return some (← marshal (Marshal.toTerm v))

end PolicyBridge.Dispatching
