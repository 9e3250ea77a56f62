import PolicyBridge.Yaml.Node
import PolicyBridge.Yaml.Token
/-!
The document that tokens make up. A text is read as a whole, so it holds one document or none. Each
call gets less fuel, and no four calls in a row leave the tokens as they are.
-/

namespace PolicyBridge.Yaml

structure Parse where
  tokens : List Token
  handles : Dict String String
  anchors : Anchors

abbrev Parsing := StateT Parse Option

namespace Parse

def peek : Parsing (Option Token) := return (← get).tokens.head?

def drop : Parsing Unit := modify fun p => { p with tokens := p.tokens.tail }

def expect (t : Token) : Parsing Unit := do
  unless (← peek) = some t do failure
  drop

def accept (t : Token) : Parsing Bool := do
  if (← peek) = some t then
    drop
    return true
  else return false

def expand (t : Tag) : Parsing String := do
  let suffix := String.ofList t.suffix
  if t.handle.isEmpty then return suffix
  match (← get).handles.find? (String.ofList t.handle) with
  | some e => return e ++ suffix
  | none => failure

structure Properties where
  anchor : Option String
  tag : Option String

def takeAnchor : Parsing (Option String) := do
  match ← peek with
  | some (.anchor name) => drop; return some (String.ofList name)
  | _ => return none

def takeTag : Parsing (Option Tag) := do
  match ← peek with
  | some (.tag t) => drop; return some t
  | _ => return none

def properties : Parsing Properties := do
  let first ← takeAnchor
  let tag ← takeTag
  let second ← if first.isNone && tag.isSome then takeAnchor else pure none
  return ⟨first.or second, ← tag.mapM expand⟩

def scalarTag (tag : Option String) : Option String := tag.filter (· ≠ "!")

def aliasOf (name : String) : Parsing Node := do
  match (← get).anchors.numbers.find? name with
  | some n => return .alias n
  | none => failure

def anchored (name : Option String) (m : Parsing Node) : Parsing Node := do
  match name with
  | none => m
  | some name =>
    let (number, anchors) := (← get).anchors.begin name
    modify fun p => { p with anchors := anchors }
    let n ← m
    modify fun p => { p with anchors := p.anchors.finish number n }
    return n

/-- Where a node stands: in flow style there are no blocks, and only as part of a block mapping
may a sequence begin without indentation. -/
inductive Place where
  | flow
  | block
  | blockMapping
deriving DecidableEq

mutual

def node : Nat → Place → Parsing Node
  | 0, _ => failure
  | n + 1, place => do
    match ← peek with
    | some (.alias name) => drop; aliasOf (String.ofList name)
    | _ =>
      let props ← properties
      anchored props.anchor (content n place props)

def content : Nat → Place → Properties → Parsing Node
  | 0, _, _ => failure
  | n + 1, place, props => do
    match place, ← peek with
    | .blockMapping, some .blockEntry => return .sequence (← indentless n)
    | _, some (.scalar style text) =>
      drop
      return .scalar (scalarTag props.tag) style (String.ofList text)
    | _, some .openSequence => drop; return .sequence (← flowItems n true)
    | _, some .openMapping => drop; return .mapping (← flowEntries n true)
    | place, some .blockSequence =>
      if place = .flow then bare props
      else
        drop
        return .sequence (← blockItems n)
    | place, some .blockMapping =>
      if place = .flow then bare props
      else
        drop
        return .mapping (← blockEntries n)
    | _, _ => bare props

def bare (props : Properties) : Parsing Node :=
  if props.anchor.isSome || props.tag.isSome then return .scalar props.tag .plain ""
  else failure

def nodeUnless : Nat → Place → List Token → Parsing Node
  | 0, _, _ => failure
  | n + 1, place, ends => do
    if (← peek).any (· ∈ ends) then return .empty else node n place

def blockItems : Nat → Parsing (List Node)
  | 0 => failure
  | n + 1 => do
    if ← accept .blockEntry then
      let item ← nodeUnless n .block [.blockEntry, .blockEnd]
      return item :: (← blockItems n)
    else
      expect .blockEnd
      return []

def indentless : Nat → Parsing (List Node)
  | 0 => failure
  | n + 1 => do
    if ← accept .blockEntry then
      let item ← nodeUnless n .block [.blockEntry, .key, .value, .blockEnd]
      return item :: (← indentless n)
    else return []

def blockEntries : Nat → Parsing (List (Node × Node))
  | 0 => failure
  | n + 1 => do
    if ← accept .key then
      let key ← nodeUnless n .blockMapping [.key, .value, .blockEnd]
      let value ← if ← accept .value then nodeUnless n .blockMapping [.key, .value, .blockEnd]
        else pure .empty
      return (key, value) :: (← blockEntries n)
    else
      expect .blockEnd
      return []

def flowItems : Nat → Bool → Parsing (List Node)
  | 0, _ => failure
  | n + 1, first => do
    if ← accept .closeSequence then return []
    unless first do expect .flowEntry
    if ← accept .closeSequence then return []
    let item ← if ← accept .key then do pure (Node.mapping [← flowPair n]) else node n .flow
    return item :: (← flowItems n false)

/-- A pair within a sequence. A token that leaves the key out is passed with it. -/
def flowPair : Nat → Parsing (Node × Node)
  | 0 => failure
  | n + 1 => do
    let ends := [.value, .flowEntry, .closeSequence]
    let key ← if (← peek).any (· ∈ ends) then do
        drop
        pure .empty
      else node n .flow
    let value ← flowValue n [.flowEntry, .closeSequence]
    return (key, value)

def flowValue : Nat → List Token → Parsing Node
  | 0, _ => failure
  | n + 1, ends => do
    if ← accept .value then nodeUnless n .flow ends else return .empty

def flowEntries : Nat → Bool → Parsing (List (Node × Node))
  | 0, _ => failure
  | n + 1, first => do
    if ← accept .closeMapping then return []
    unless first do expect .flowEntry
    if ← accept .closeMapping then return []
    let entry ← if ← accept .key then
        let key ← nodeUnless n .flow [.value, .flowEntry, .closeMapping]
        pure (key, ← flowValue n [.flowEntry, .closeMapping])
      else pure (← node n .flow, .empty)
    return entry :: (← flowEntries n false)

end

def standardHandles : Dict String String := [("!", "!"), ("!!", "tag:yaml.org,2002:")]

structure Header where
  version : Bool
  handles : Dict String String

def Header.add (h : Header) : Directive → Option Header
  | .version major minor =>
    if h.version || major != 1 || (minor != 1 && minor != 2) then none
    else some { h with version := true }
  | .tag handle expansion =>
    let handle := String.ofList handle
    if h.handles.contains handle then none
    else some { h with handles := h.handles.insert handle (String.ofList expansion) }

def header : Header → List Token → Option (Header × List Token)
  | h, .directive d :: ts => (h.add d).bind fun h => header h ts
  | h, .documentStart :: ts => some (h, ts)
  | _, _ => none

def Header.allHandles (h : Header) : Dict String String :=
  h.handles.foldl (fun d e => d.insert e.1 e.2) standardHandles

def endsDocument : List Token → Bool
  | [] => true
  | .directive _ :: _ => true
  | .documentStart :: _ => true
  | .documentEnd :: _ => true
  | _ => false

def rootOf (ts : List Token) : Parsing Node := node (4 * ts.length + 4) .block

def finish? (handles : Dict String String) (ts : List Token) (m : Parsing Node) : Option Document :=
  match m ⟨ts, handles, .none⟩ with
  | some (root, p) => if p.tokens.all (· = .documentEnd) then some ⟨root, p.anchors.nodes⟩ else none
  | none => none

def begins : Token → Bool
  | .directive _ => true
  | .documentStart => true
  | _ => false

def document? (ts : List Token) : Option Document :=
  if ts.head?.any begins then
    match header ⟨false, []⟩ ts with
    | none => none
    | some (h, ts) =>
      finish? h.allHandles ts (if endsDocument ts then pure .empty else rootOf ts)
  else finish? standardHandles ts (rootOf ts)

end Parse

def Document.read? (s : String) : Option (Option Document) :=
  match Token.ofText? s with
  | none => none
  | some [] => some none
  | some ts => (Parse.document? ts).map some

end PolicyBridge.Yaml
