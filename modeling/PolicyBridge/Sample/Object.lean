import PolicyBridge.Class
import PolicyBridge.Value.Shape

namespace PolicyBridge.Sample

structure RecordType where
  name : String
deriving DecidableEq

mutual

inductive Object where
  | record (t : RecordType) (fields : List (String × HostValue Object)) (items : List Behaviour)
  | integer (i : Int64)
  | text (s : String)
  | unit
  | classObject

inductive Behaviour where
  | const (v : HostValue Object)
  | field (name : String)
  | fail (message : String)
  | panic (message : Option String)
  | raise (e : Error)
  | unsigned (n : UInt64)
  | arg (index : Nat) (s : Shape)
  | labelOf (t : RecordType) (index : Nat)
  | args
  | argCount
  | self
  | typeName
  | id

end

instance : Inhabited Behaviour := ⟨.args⟩

inductive ReceiverType where
  | record (t : RecordType)
  | integer
  | text
  | unit
deriving DecidableEq

def ReceiverType.hostType : ReceiverType → HostType
  | .record t => ⟨t.name⟩
  | .integer => ⟨"i64"⟩
  | .text => ⟨"alloc::string::String"⟩
  | .unit => Class.unitType

def classObjectType : HostType := ⟨"polar_host::api::session::ClassObject"⟩

namespace Object

def hostType : Object → HostType
  | .record t _ _ => ⟨t.name⟩
  | .integer _ => ReceiverType.integer.hostType
  | .text _ => ReceiverType.text.hostType
  | .unit => ReceiverType.unit.hostType
  | .classObject => classObjectType

def field? (o : Object) (name : String) : Option (HostValue Object) :=
  match o with
  | .record _ fields _ => Dict.find? fields name
  | .integer i => if name = "value" then some (.integer i) else none
  | .text s => if name = "value" then some (.string s) else none
  | _ => none

def textField? (o : Object) (name : String) : Option String :=
  match o.field? name with
  | some (.string s) => some s
  | _ => none

def label? : Object → Option String
  | .integer i => some (toString i.toInt)
  | .text s => some s
  | .record t fields items => (Object.record t fields items).textField? "label"
  | _ => none

def make (t : ReceiverType) (fields : Dict String (HostValue Object)) (items : List Behaviour) :
    Object :=
  match t with
  | .record t => .record t fields items
  | .integer => .integer (match fields.find? "value" with | some (.integer i) => i | _ => 0)
  | .text => .text (match fields.find? "value" with | some (.string s) => s | _ => "")
  | .unit => .unit

def unlessPanic (o : Object) (field : String) (outcome : Outcome α) : Outcome α :=
  match o.textField? field with
  | some m => .panicked (some m)
  | none => outcome

def sameKey (a b : Object) : Bool :=
  match a.field? "key", b.field? "key" with
  | some x, some y => x == y
  | none, none => true
  | _, _ => false

def equal : Object → Object → Outcome Bool
  | .integer i, .integer j => .value (i == j)
  | .text s, .text t => .value (s == t)
  | .record t fields items, b =>
    let a := Object.record t fields items
    a.unlessPanic "eq_panic" (.value (a.sameKey b))
  | .unit, _ => .value true
  | _, _ => .value false

def compareRanks (a b : Object) : Option Ordering :=
  match a.field? "rank", b.field? "rank" with
  | some (.integer i), some (.integer j) => some (compare i j)
  | some (.float x), some (.float y) => compareFloats x y
  | _, _ => none

def order : Object → Object → Outcome (Option Ordering)
  | .integer i, .integer j => .value (some (compare i j))
  | .text s, .text t => .value (some (compare s t))
  | .record t fields items, b =>
    let a := Object.record t fields items
    a.unlessPanic "ord_panic" (.value (a.compareRanks b))
  | .unit, _ => .value (some .eq)
  | _, _ => .value none

end Object

namespace Behaviour

structure Scope where
  receiver : Option Object
  reference : Option (Instance Object)
  args : Args Object

def noField (name : String) : Outcome (HostValue Object) := .raised ("no field " ++ name)

def orRaise : Except Error (HostValue Object) → Outcome (HostValue Object)
  | .ok v => .value v
  | .error e => .raised e.display

def labelOfArg (t : RecordType) (args : Args Object) (index : Nat) :
    Except Error (HostValue Object) := do
  let i ← args.get .object index
  let o ← i.downcast ⟨t.name⟩
  return (o.field? "label").getD (.boolean false)

def reading (f : Instance Object → HostValue Object) (s : Scope) : Outcome (HostValue Object) :=
  match s.reference with
  | some i => .value (f i)
  | none => .raised "no receiver"

def run (b : Behaviour) (s : Scope) : Outcome (HostValue Object) :=
  match b with
  | .const v => .value v
  | .field name =>
    match s.receiver.bind fun o => o.field? name with
    | some v => .value v
    | none => noField name
  | .fail message => .raised message
  | .panic message => .panicked message
  | .raise e => .failed e
  | .unsigned n =>
    if UInt64.size / 2 ≤ n.toNat then .failed (Shape.unrepresentable n.toNat .u64)
    else .value (.integer (Int64.ofInt n.toNat))
  | .arg index shape => orRaise do shape.store (← s.args.get shape index)
  | .labelOf t index => orRaise (labelOfArg t s.args index)
  | .args => .value (.list s.args)
  | .argCount => .value (.integer (Int64.ofInt s.args.length))
  | .self => reading .object s
  | .typeName => reading (fun i => .string i.hostType.name) s
  | .id => reading (fun i => match i.id with
      | some n => .integer (Int64.ofInt n.toNat)
      | none => .integer (-1)) s

end Behaviour

namespace Object

def steps : Object → Outcome (Steps Object)
  | .record t fields items =>
    (Object.record t fields items).unlessPanic "iter_panic"
      (.value fun n => (items[n]?).map fun b => b.run ⟨none, none, []⟩)
  | _ => .value fun _ => none

end Object

end PolicyBridge.Sample
