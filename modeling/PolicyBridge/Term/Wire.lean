import PolicyBridge.Json.Fields
import PolicyBridge.Term.Basic
import PolicyBridge.Error
/-!
Terms as JSON. Each array and object on the way to a part of a term costs one of the `budget`,
so a term is read exactly if its text stays within the depth limit.
-/

namespace PolicyBridge.Term

open Json (variant record)

def numberJson (tag : String) (j : Json) : Json := variant "Number" (variant tag j)

def dictJson (fields : List (String × Json)) : Json := record [("fields", Json.ofDict fields)]

def literalJson (tag : String) (fields : List (String × Json)) : Json :=
  record [("tag", .text tag), ("fields", dictJson fields)]

def optionalText : Option String → Json := Json.optional .text

def ifPresent (name : String) : Option Json → List (String × Json)
  | none => []
  | some j => [(name, j)]

def wrap (body : Json) : Json := record [("value", body)]

mutual

def body : Term → Json
  | .integer i => numberJson "Integer" (.int i.toInt)
  | .float x => numberJson "Float" (.float x)
  | .string s => variant "String" (.text s)
  | .boolean b => variant "Boolean" (.bool b)
  | .external id c r k => variant "ExternalInstance" (record
      [("instance_id", .nat id.toNat), ("constructor", optionalBody c), ("repr", optionalText r),
        ("class_repr", optionalText k)])
  | .literal tag fs => variant "InstanceLiteral" (literalJson tag (fieldBodies fs))
  | .dictionary fs => variant "Dictionary" (dictJson (fieldBodies fs))
  | .dictionaryPattern fs =>
    variant "Pattern" (variant "Dictionary" (dictJson (fieldBodies fs)))
  | .instancePattern tag fs =>
    variant "Pattern" (variant "Instance" (literalJson tag (fieldBodies fs)))
  | .call name as ks => variant "Call" (record
      ([("name", .text name), ("args", .array (bodies as))] ++
        ifPresent "kwargs" (keywordBodies ks)))
  | .list es r => variant "List" (record
      ([("elements", .array (bodies es))] ++ ifPresent "rest_var" (r.map .text)))
  | .var name => variant "Variable" (.text name)

def optionalBody : Option Term → Json
  | none => .null
  | some t => wrap (body t)

def bodies : List Term → List Json
  | [] => []
  | t :: ts => wrap (body t) :: bodies ts

def fieldBodies : List (String × Term) → List (String × Json)
  | [] => []
  | (k, t) :: fs => (k, wrap (body t)) :: fieldBodies fs

def keywordBodies : Option (List (String × Term)) → Option Json
  | none => none
  | some fs => some (Json.ofDict (fieldBodies fs))

end

def json (t : Term) : Json := wrap (body t)

def text (t : Term) : String := t.json.write

def only (names : List String) (j : Json) : Option Json :=
  match j.fields? names with
  | some [some v] => some v
  | _ => none

def readNumber? : Nat → Json → Option Term
  | 0, _ => none
  | _ + 1, j => do
    let (tag, n) ← j.variant?
    if tag = "Integer" then return .integer (← n.int64?)
    else if tag = "Float" then return .float (← n.float?)
    else none

mutual

def read? : Nat → Json → Option Term
  | 0, _ => none
  | b + 1, j => do readBody? b (← only ["value"] j)

def readBody? : Nat → Json → Option Term
  | 0, _ => none
  | b + 1, j => do
    let (tag, v) ← j.variant?
    match tag with
    | "Number" => readNumber? b v
    | "String" => return .string (← v.string?)
    | "Boolean" => return .boolean (← v.bool?)
    | "Variable" => return .var (← v.string?)
    | "ExternalInstance" => readExternal? b v
    | "InstanceLiteral" => do
      let (tag, fields) ← readLiteral? b v
      return .literal tag fields
    | "Dictionary" => return .dictionary (← readDictionary? b v)
    | "Pattern" => readPattern? b v
    | "Call" => readCall? b v
    | "List" => readList? b v
    | _ => none

def readExternal? : Nat → Json → Option Term
  | 0, _ => none
  | b + 1, j =>
    match j.fields? ["instance_id", "constructor", "repr", "class_repr"] with
    | some [some id, c, r, k] => do
      let id ← id.uint64?
      let c ← Json.absentOr (read? b) (c.getD .null)
      let r ← Json.absentOr Json.string? (r.getD .null)
      let k ← Json.absentOr Json.string? (k.getD .null)
      return .external id c r k
    | _ => none

def readLiteral? : Nat → Json → Option (String × List (String × Term))
  | 0, _ => none
  | b + 1, j =>
    match j.fields? ["tag", "fields"] with
    | some [some tag, some fields] => do
      return (← tag.string?, ← readDictionary? b fields)
    | _ => none

def readDictionary? : Nat → Json → Option (List (String × Term))
  | 0, _ => none
  | b + 1, j => do readFields? b (← only ["fields"] j)

def readFields? : Nat → Json → Option (List (String × Term))
  | 0, _ => none
  | b + 1, j => j.dict? fun v => read? b v

def readPattern? : Nat → Json → Option Term
  | 0, _ => none
  | b + 1, j => do
    let (tag, v) ← j.variant?
    match tag with
    | "Dictionary" => return .dictionaryPattern (← readDictionary? b v)
    | "Instance" => do
      let (tag, fields) ← readLiteral? b v
      return .instancePattern tag fields
    | _ => none

def readCall? : Nat → Json → Option Term
  | 0, _ => none
  | b + 1, j =>
    match j.fields? ["name", "args", "kwargs"] with
    | some [some name, some args, kwargs] => do
      let name ← name.string?
      let args ← readItems? b args
      let kwargs ← Json.absentOr (readFields? b) (kwargs.getD .null)
      return .call name args kwargs
    | _ => none

def readList? : Nat → Json → Option Term
  | 0, _ => none
  | b + 1, j =>
    match j.fields? ["elements", "rest_var"] with
    | some [some elements, rest] => do
      let elements ← readItems? b elements
      let rest ← Json.absentOr Json.string? (rest.getD .null)
      return .list elements rest
    | _ => none

def readItems? : Nat → Json → Option (List Term)
  | 0, _ => none
  | b + 1, j => j.items? fun v => read? b v

end

def ofText? (s : String) : Option Term := (Json.read? s).bind (read? Json.depthLimit)

def parse (s : String) : Except Error Term :=
  match ofText? s with
  | some t => .ok t
  | none => .error (.malformed "not a term")

end PolicyBridge.Term
