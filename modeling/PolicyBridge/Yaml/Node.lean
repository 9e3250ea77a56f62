import PolicyBridge.Dict
import PolicyBridge.Yaml.Scalar
/-!
YAML documents. An alias names an anchored node by number, so a node may contain itself.
-/

namespace PolicyBridge.Yaml

inductive Node where
  | alias (number : Nat)
  | scalar (tag : Option String) (style : Style) (text : String)
  | sequence (items : List Node)
  | mapping (entries : List (Node × Node))

namespace Node

def empty : Node := .scalar none .plain ""

end Node

/-- The nodes with an anchor. A number is given when a node begins, from how many names there
are; should one be given again, the node that begins later has it. -/
structure Anchors where
  numbers : Dict String Nat
  nodes : Dict Nat Node

namespace Anchors

def none : Anchors := ⟨[], []⟩

def begin (a : Anchors) (name : String) : Nat × Anchors :=
  let number := a.numbers.length
  (number, ⟨a.numbers.insert name number, a.nodes.erase number⟩)

def finish (a : Anchors) (number : Nat) (n : Node) : Anchors :=
  if a.nodes.contains number then a else { a with nodes := a.nodes.insert number n }

end Anchors

structure Document where
  root : Node
  anchors : Dict Nat Node

end PolicyBridge.Yaml
