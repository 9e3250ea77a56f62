import PolicyBridge.Value.Basic

namespace PolicyBridge

inductive IntKind where
  | i8
  | i16
  | i32
  | i64
  | u8
  | u16
  | u32
  | u64
  | usize
deriving DecidableEq

namespace IntKind

def name : IntKind → String
  | .i8 => "i8"
  | .i16 => "i16"
  | .i32 => "i32"
  | .i64 => "i64"
  | .u8 => "u8"
  | .u16 => "u16"
  | .u32 => "u32"
  | .u64 => "u64"
  | .usize => "usize"

def least : IntKind → Int
  | .i8 => Int8.minValue.toInt
  | .i16 => Int16.minValue.toInt
  | .i32 => Int32.minValue.toInt
  | .i64 => Int64.minValue.toInt
  | _ => 0

def greatest : IntKind → Int
  | .i8 => Int8.maxValue.toInt
  | .i16 => Int16.maxValue.toInt
  | .i32 => Int32.maxValue.toInt
  | .i64 => Int64.maxValue.toInt
  | .u8 => UInt8.size - 1
  | .u16 => UInt16.size - 1
  | .u32 => UInt32.size - 1
  | .u64 => UInt64.size - 1
  | .usize => UInt64.size - 1

def Fits (k : IntKind) (i : Int) : Prop := k.least ≤ i ∧ i ≤ k.greatest

instance (k : IntKind) (i : Int) : Decidable (k.Fits i) := inferInstanceAs (Decidable (_ ∧ _))

end IntKind

inductive Shape where
  | int (k : IntKind)
  | float
  | boolean
  | string
  | value
  | object
  | list (item : Shape)
  | map (field : Shape)
deriving DecidableEq, Inhabited

namespace Shape

variable {Obj : Type}

abbrev Carrier (Obj : Type) : Shape → Type
  | .int k => { i : Int // k.Fits i }
  | .float => Float
  | .boolean => Bool
  | .string => String
  | .value => HostValue Obj
  | .object => Instance Obj
  | .list s => List (Carrier Obj s)
  | .map s => Dict String (Carrier Obj s)

def mismatch (expected : String) (v : HostValue Obj) : Error :=
  .marshal ("expected " ++ expected ++ ", got " ++ v.kind) (some v.kind)

def outOfRange (i : Int64) (k : IntKind) : Error :=
  .marshal (toString i.toInt ++ " is out of range for " ++ k.name) (some "Integer")

def unrepresentable (i : Int) (k : IntKind) : Error :=
  .marshal (toString i ++ " does not fit in a 64-bit signed integer") (some k.name)

def onEntry (f : α → Except Error β) (e : String × α) : Except Error (String × β) := do
  return (e.1, ← f e.2)

def fetch : (s : Shape) → HostValue Obj → Except Error (s.Carrier Obj)
  | .int k, .integer i => if h : k.Fits i.toInt then .ok ⟨i.toInt, h⟩ else .error (outOfRange i k)
  | .int _, v => .error (mismatch "Integer" v)
  | .float, .float x => .ok x
  | .float, .integer i => .ok (floatOfInteger i)
  | .float, v => .error (mismatch "Float" v)
  | .boolean, .boolean b => .ok b
  | .boolean, v => .error (mismatch "Boolean" v)
  | .string, .string s => .ok s
  | .string, v => .error (mismatch "String" v)
  | .value, v => .ok v
  | .object, .object i => .ok i
  | .object, v => .error (mismatch "Instance" v)
  | .list s, .list items => items.mapM (fetch s)
  | .list _, v => .error (mismatch "List" v)
  | .map s, .map fields => fields.mapM (onEntry (fetch s))
  | .map _, v => .error (mismatch "Dictionary" v)

def store : (s : Shape) → s.Carrier Obj → Except Error (HostValue Obj)
  | .int k, i =>
    if IntKind.i64.Fits i.val then .ok (.integer (Int64.ofInt i.val))
    else .error (unrepresentable i.val k)
  | .float, x => .ok (.float x)
  | .boolean, b => .ok (.boolean b)
  | .string, s => .ok (.string s)
  | .value, v => .ok v
  | .object, i => .ok (.object i)
  | .list s, items => do return .list (← items.mapM (store s))
  | .map s, fields => do return .map (← fields.mapM (onEntry (store s)))

def convert (s : Shape) (v : HostValue Obj) : Except Error (HostValue Obj) := do
  s.store (← s.fetch v)

end Shape

namespace Args

variable {Obj : Type}

def missing (index count : Nat) : Error :=
  .raised ("missing argument " ++ toString index ++ " (got " ++ toString count ++ ")")

def get (args : Args Obj) (s : Shape) (index : Nat) : Except Error (s.Carrier Obj) :=
  match args[index]? with
  | some v => s.fetch v
  | none => .error (missing index args.length)

end Args

def Instance.downcast {Obj : Type} (i : Instance Obj) (t : HostType) : Except Error Obj :=
  if i.hostType = t then .ok i.object
  else .error (.marshal ("instance of " ++ i.hostType.name ++ " is not a " ++ t.name)
    (some i.hostType.name))

inductive Outgoing (Obj : Type) where
  | plain (s : Shape) (x : s.Carrier Obj)
  | single (x : Float32)
  | failure (message : String)
  | list (items : List (Outgoing Obj))

namespace Outgoing

variable {Obj : Type}

instance : Inhabited (Outgoing Obj) := ⟨.list []⟩

mutual

def convert : Outgoing Obj → Except Error (HostValue Obj)
  | .plain s x => s.store x
  | .single x => .ok (.float x.toFloat)
  | .failure message => .error (.raised message)
  | .list items => (convertAll items).map .list

def convertAll : List (Outgoing Obj) → Except Error (List (HostValue Obj))
  | [] => .ok []
  | o :: os => do
    let v ← convert o
    return v :: (← convertAll os)

end

end Outgoing

end PolicyBridge
