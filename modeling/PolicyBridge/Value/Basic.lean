import PolicyBridge.Json.Basic
import PolicyBridge.Error
import PolicyBridge.Text.Quoted
/-!
Values of the host: plain data, and references to host objects. What a host object is stays open
(`Obj`); two references are equal when they refer to the same object.
-/

namespace PolicyBridge

structure HostType where
  name : String
deriving DecidableEq

/-- Which object a reference refers to: one the host brought along, or the n-th one built here. -/
inductive Identity where
  | brought (n : Nat)
  | built (n : Nat)
deriving DecidableEq

structure Instance (Obj : Type) where
  object : Obj
  hostType : HostType
  identity : Identity
  /-- Set on references to objects that the host registered itself. -/
  id : Option UInt64

inductive HostValue (Obj : Type) where
  | integer (i : Int64)
  | float (x : Float)
  | string (s : String)
  | boolean (b : Bool)
  | list (items : List (HostValue Obj))
  | map (fields : List (String × HostValue Obj))
  | var (name : String)
  | object (i : Instance Obj)

/-- The float nearest to an integer; of two that are equally near, the one of even significand. -/
def floatOfInteger (i : Int64) : Float := .ofModel (.ofInt64 i)

def compareFloats (x y : Float) : Option Ordering :=
  if x < y then some .lt
  else if x == y then some .eq
  else if y < x then some .gt
  else none

abbrev Args (Obj : Type) := List (HostValue Obj)

namespace Instance

variable {Obj : Type}

def sameObject (a b : Instance Obj) : Bool := a.identity = b.identity

def display (i : Instance Obj) : String :=
  let id := match i.id with
    | none => "None"
    | some id => "Some(" ++ toString id ++ ")"
  "Instance \x7b type: " ++ Text.quoted i.hostType.name ++ ", id: " ++ id ++ " \x7d"

def withId (i : Instance Obj) (id : UInt64) : Instance Obj := { i with id := some id }

end Instance

namespace HostValue

variable {Obj : Type}

instance : Inhabited (HostValue Obj) := ⟨.boolean false⟩

def kind : HostValue Obj → String
  | .integer _ => "Integer"
  | .float _ => "Float"
  | .string _ => "String"
  | .boolean _ => "Boolean"
  | .list _ => "List"
  | .map _ => "Dictionary"
  | .var _ => "Variable"
  | .object _ => "Instance"

mutual

def beq : HostValue Obj → HostValue Obj → Bool
  | .integer i, .integer j => i == j
  | .float x, .float y => x == y
  | .string s, .string t => s == t
  | .boolean a, .boolean b => a == b
  | .list xs, .list ys => beqItems xs ys
  | .map xs, .map ys => beqFields xs ys
  | .var m, .var n => m == n
  | .object a, .object b => a.sameObject b
  | _, _ => false

def beqItems : List (HostValue Obj) → List (HostValue Obj) → Bool
  | [], [] => true
  | x :: xs, y :: ys => beq x y && beqItems xs ys
  | _, _ => false

def beqFields : List (String × HostValue Obj) → List (String × HostValue Obj) → Bool
  | [], [] => true
  | (k, x) :: xs, (l, y) :: ys => k == l && beq x y && beqFields xs ys
  | _, _ => false

end

instance : BEq (HostValue Obj) := ⟨beq⟩

mutual

def json : HostValue Obj → Json
  | .integer i => .int i.toInt
  | .float x => .float x
  | .string s => .text s
  | .boolean b => .bool b
  | .list items => .array (jsonItems items)
  | .map fields => .object (jsonFields fields)
  | .var name => .record [("variable", .text name)]
  | .object i =>
    .record [("id", .optional (fun id => .nat id.toNat) i.id), ("instance", .text i.hostType.name)]

def jsonItems : List (HostValue Obj) → List Json
  | [] => []
  | v :: vs => json v :: jsonItems vs

def jsonFields : List (String × HostValue Obj) → List (Option String × Json)
  | [] => []
  | (k, v) :: fs => (some k, json v) :: jsonFields fs

end

end HostValue

end PolicyBridge
