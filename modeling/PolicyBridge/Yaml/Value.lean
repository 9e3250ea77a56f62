import PolicyBridge.Decimal.Text
import PolicyBridge.Yaml.Document
/-!
What the nodes of a document mean as values of a type. Truth values and numbers are written plain,
or literally under their own tag; every scalar is a text; nothing at all is an empty collection.
-/

namespace PolicyBridge.Yaml

def natural? (base : Nat) (digits : List Char) : Option UInt64 :=
  let value (c : Char) := (Json.hexValue? c).filter (· < base)
  if digits.isEmpty then none
  else
    match digits.foldlM (fun n c => (value c).map (base * n + ·)) 0 with
    | some n => if n < UInt64.size then some (UInt64.ofNat n) else none
    | none => none

def leadingZero : List Char → Bool
  | '0' :: c :: r => (c :: r).all Char.isDigit
  | _ => false

def unsigned? (s : String) : Option UInt64 :=
  match Decimal.dropPlus s.toList with
  | '0' :: 'x' :: r => natural? 16 r
  | '0' :: 'o' :: r => natural? 8 r
  | '0' :: 'b' :: r => natural? 2 r
  | digits => if leadingZero digits then none else natural? 10 digits

def truth? (s : String) : Option Bool :=
  if s = "true" ∨ s = "True" ∨ s = "TRUE" then some true
  else if s = "false" ∨ s = "False" ∨ s = "FALSE" then some false
  else none

def boolTag : String := "tag:yaml.org,2002:bool"

def intTag : String := "tag:yaml.org,2002:int"

namespace Node

def follow (anchors : Dict Nat Node) : Node → Option Node
  | .alias n => anchors.find? n
  | n => some n

def isNothing : Node → Bool
  | .scalar _ .plain text => text.isEmpty
  | _ => false

def text? : Node → Option String
  | .scalar _ _ text => some text
  | _ => none

def typed? (expected : String) : Node → Option String
  | .scalar _ .plain text => some text
  | .scalar (some tag) .literal text => if tag = expected then some text else none
  | _ => none

def bool? (n : Node) : Option Bool := (n.typed? boolTag).bind truth?

def natural? (n : Node) : Option UInt64 := (n.typed? intTag).bind unsigned?

def items? : Node → Option (List Node)
  | .sequence items => some items
  | n => if n.isNothing then some [] else none

def keyed? (anchors : Dict Nat Node) (e : Node × Node) : Option (String × Node) := do
  some (← (← e.1.follow anchors).text?, e.2)

def field? (entries : List (String × Node)) (name : String) : Option (Option Node) :=
  match entries.filter fun e => e.1 = name with
  | [] => some none
  | [e] => some (some e.2)
  | _ => none

def fields? (anchors : Dict Nat Node) (names : List String) : Node → Option (List (Option Node))
  | .mapping entries => do
    let entries ← entries.mapM (keyed? anchors)
    names.mapM (field? entries)
  | n => if n.isNothing then some (names.map fun _ => none) else none

end Node

end PolicyBridge.Yaml
