import PolicyBridge.Json.Basic
import PolicyBridge.Term.Basic

namespace PolicyBridge

inductive Operator where
  | eq
  | neq
  | lt
  | leq
  | gt
  | geq
deriving DecidableEq

def Operator.name : Operator → String
  | .eq => "Eq"
  | .neq => "Neq"
  | .lt => "Lt"
  | .leq => "Leq"
  | .gt => "Gt"
  | .geq => "Geq"

def Operator.all : List Operator := [.eq, .neq, .lt, .leq, .gt, .geq]

def Operator.ofName? (s : String) : Option Operator := all.find? fun o => o.name = s

inductive Event where
  | done (result : Bool)
  | result (bindings : Bindings) (trace : Option Json)
  | makeExternal (instanceId : UInt64) (constructor : Term)
  | externalCall (callId : UInt64) (receiver : Term) (member : String)
      (args : Option (List Term)) (kwargs : Option (Dict String Term))
  | externalIsa (callId : UInt64) (value : Term) (classTag : String)
  | externalIsSubSpecializer (callId instanceId : UInt64) (left right : String)
  | externalIsSubclass (callId : UInt64) (left right : String)
  | externalUnify (callId left right : UInt64)
  | externalOp (callId : UInt64) (operator : Operator) (args : List Term)
  | nextExternal (callId : UInt64) (iterable : Term)

namespace Event

def kind : Event → String
  | .done _ => "Done"
  | .result .. => "Result"
  | .makeExternal .. => "MakeExternal"
  | .externalCall .. => "ExternalCall"
  | .externalIsa .. => "ExternalIsa"
  | .externalIsSubSpecializer .. => "ExternalIsSubSpecializer"
  | .externalIsSubclass .. => "ExternalIsSubclass"
  | .externalUnify .. => "ExternalUnify"
  | .externalOp .. => "ExternalOp"
  | .nextExternal .. => "NextExternal"

def isExternal : Event → Bool
  | .done _ => false
  | .result .. => false
  | _ => true

end Event

end PolicyBridge
