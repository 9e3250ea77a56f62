import PolicyBridge.Dict
import PolicyBridge.Outcome
import PolicyBridge.Text.Quoted
import PolicyBridge.Value.Basic

namespace PolicyBridge

abbrev Steps (Obj : Type) := Nat → Option (Outcome (HostValue Obj))

abbrev Getter (Obj : Type) := Instance Obj → Outcome (HostValue Obj)

abbrev Method (Obj : Type) := Instance Obj → Args Obj → Outcome (HostValue Obj)

structure Class (Obj : Type) where
  name : String
  receiver : HostType
  /-- An abstract class is not found by the type of an object. -/
  isAbstract : Bool
  order : List String
  construct : Option (Args Obj → Outcome Obj)
  attributes : Dict String (Getter Obj)
  methods : Dict String (Method Obj)
  equality : Option (Instance Obj → Instance Obj → Outcome Bool)
  ordering : Option (Instance Obj → Instance Obj → Outcome (Option Ordering))
  iterator : Option (Instance Obj → Outcome (Steps Obj))

namespace Class

variable {Obj : Type}

def forType (name : String) (receiver : HostType) : Class Obj :=
  ⟨name, receiver, false, [name], none, [], [], none, none, none⟩

def unitType : HostType := ⟨"()"⟩

def abstractOf (name : String) : Class Obj := { forType name unitType with isAbstract := true }

def objectType (c : Class Obj) : Option HostType := if c.isAbstract then none else some c.receiver

def isSubclassOf (c : Class Obj) (other : String) : Bool := c.order.contains other

def specificity (c : Class Obj) (name : String) : Option Nat := c.order.findIdx? (· = name)

def hasAttribute (c : Class Obj) (name : String) : Bool := c.attributes.contains name

def hasMethod (c : Class Obj) (name : String) : Bool := c.methods.contains name

def isConstructible (c : Class Obj) : Bool := c.construct.isSome

def display (c : Class Obj) : String :=
  "Class \x7b name: " ++ Text.quoted c.name ++ ", attributes: " ++
    Text.quotedList c.attributes.keys ++ ", methods: " ++ Text.quotedList c.methods.keys ++
    ", specializer_order: " ++ Text.quotedList c.order ++ " \x7d"

def wrongReceiver (className member : String) (i : Instance Obj) : Error :=
  .protocol (className ++ "." ++ member ++ " cannot receive an instance of " ++ i.hostType.name)

/-- Runs host code on the object of a reference, where it is of the class's type. -/
def onReceiver (c : Class Obj) (member : String) (i : Instance Obj) (f : Obj → Outcome α) :
    Outcome α :=
  if i.hostType = c.receiver then f i.object else .failed (wrongReceiver c.name member i)

def withConstructor (f : Args Obj → Outcome Obj) (c : Class Obj) : Class Obj :=
  { c with construct := some f }

def addAttribute (name : String) (f : Obj → Outcome (HostValue Obj)) (c : Class Obj) : Class Obj :=
  { c with attributes := c.attributes.insert name fun i => c.onReceiver name i f }

def addMethod (name : String) (f : Obj → Args Obj → Outcome (HostValue Obj)) (c : Class Obj) :
    Class Obj :=
  { c with methods := c.methods.insert name fun i args => c.onReceiver name i fun o => f o args }

def addInstanceMethod (name : String) (f : Method Obj) (c : Class Obj) : Class Obj :=
  { c with methods := c.methods.insert name f }

def addSpecializer (order : List String) (parent : String) : List String :=
  if order.contains parent then order else order ++ [parent]

def withSpecializers (parents : List String) (c : Class Obj) : Class Obj :=
  { c with order := parents.foldl addSpecializer [c.name] }

def withIterator (f : Obj → Outcome (Steps Obj)) (c : Class Obj) : Class Obj :=
  { c with iterator := some fun i => c.onReceiver "__iter__" i f }

def withEquality (eq : Obj → Obj → Outcome Bool) (c : Class Obj) : Class Obj :=
  { c with equality := some fun l r => c.onReceiver "==" l fun o =>
      if r.hostType = c.receiver then eq o r.object else .value false }

def withOrdering (cmp : Obj → Obj → Outcome (Option Ordering)) (c : Class Obj) : Class Obj :=
  { c with ordering := some fun l r => c.onReceiver "<" l fun o =>
      if r.hostType = c.receiver then cmp o r.object else .value none }

end Class

end PolicyBridge
