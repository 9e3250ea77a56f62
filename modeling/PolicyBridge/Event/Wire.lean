import PolicyBridge.Event.Basic
import PolicyBridge.Term.Wire

namespace PolicyBridge.Event

open Json (variant record)

def termDict (d : Dict String Term) : Json := Json.ofDict (Term.fieldBodies d)

def json : Event → Json
  | .done r => variant "Done" (record [("result", .bool r)])
  | .result bs trace => variant "Result" (record
      [("bindings", termDict bs), ("trace", trace.getD .null)])
  | .makeExternal id c => variant "MakeExternal" (record
      [("instance_id", .nat id.toNat), ("constructor", c.json)])
  | .externalCall id receiver member args kwargs => variant "ExternalCall" (record
      [("call_id", .nat id.toNat), ("instance", receiver.json), ("attribute", .text member),
        ("args", .optional (fun as => .array (Term.bodies as)) args),
        ("kwargs", .optional termDict kwargs)])
  | .externalIsa id t tag => variant "ExternalIsa" (record
      [("call_id", .nat id.toNat), ("instance", t.json), ("class_tag", .text tag)])
  | .externalIsSubSpecializer id i l r => variant "ExternalIsSubSpecializer" (record
      [("call_id", .nat id.toNat), ("instance_id", .nat i.toNat), ("left_class_tag", .text l),
        ("right_class_tag", .text r)])
  | .externalIsSubclass id l r => variant "ExternalIsSubclass" (record
      [("call_id", .nat id.toNat), ("left_class_tag", .text l), ("right_class_tag", .text r)])
  | .externalUnify id l r => variant "ExternalUnify" (record
      [("call_id", .nat id.toNat), ("left_instance_id", .nat l.toNat),
        ("right_instance_id", .nat r.toNat)])
  | .externalOp id o as => variant "ExternalOp" (record
      [("call_id", .nat id.toNat), ("operator", .text o.name), ("args", .array (Term.bodies as))])
  | .nextExternal id t => variant "NextExternal" (record
      [("call_id", .nat id.toNat), ("iterable", t.json)])

def text (e : Event) : String := e.json.write

def fieldNames : String → List String
  | "Done" => ["result"]
  | "Result" => ["bindings", "trace"]
  | "MakeExternal" => ["instance_id", "constructor"]
  | "ExternalCall" => ["call_id", "instance", "attribute", "args", "kwargs"]
  | "ExternalIsa" => ["call_id", "instance", "class_tag"]
  | "ExternalIsSubSpecializer" => ["call_id", "instance_id", "left_class_tag", "right_class_tag"]
  | "ExternalIsSubclass" => ["call_id", "left_class_tag", "right_class_tag"]
  | "ExternalUnify" => ["call_id", "left_instance_id", "right_instance_id"]
  | "ExternalOp" => ["call_id", "operator", "args"]
  | "NextExternal" => ["call_id", "iterable"]
  | _ => []

def ofFields? (b : Nat) (tag : String) (fields : List (Option Json)) : Option Event :=
  match tag, fields with
  | "Done", [some r] => do return .done (← r.bool?)
  | "Result", [some bs, trace] => do
    let bindings ← Term.readFields? b bs
    let trace ← Json.absentOr (Json.canonical? b) (trace.getD .null)
    return .result bindings trace
  | "MakeExternal", [some id, some c] => do
    return .makeExternal (← id.uint64?) (← Term.read? b c)
  | "ExternalCall", [some id, some receiver, some member, args, kwargs] => do
    let id ← id.uint64?
    let receiver ← Term.read? b receiver
    let member ← member.string?
    let args ← Json.absentOr (Term.readItems? b) (args.getD .null)
    let kwargs ← Json.absentOr (Term.readFields? b) (kwargs.getD .null)
    return .externalCall id receiver member args kwargs
  | "ExternalIsa", [some id, some t, some tag] => do
    return .externalIsa (← id.uint64?) (← Term.read? b t) (← tag.string?)
  | "ExternalIsSubSpecializer", [some id, some i, some l, some r] => do
    return .externalIsSubSpecializer (← id.uint64?) (← i.uint64?) (← l.string?) (← r.string?)
  | "ExternalIsSubclass", [some id, some l, some r] => do
    return .externalIsSubclass (← id.uint64?) (← l.string?) (← r.string?)
  | "ExternalUnify", [some id, some l, some r] => do
    return .externalUnify (← id.uint64?) (← l.uint64?) (← r.uint64?)
  | "ExternalOp", [some id, some o, some as] => do
    return .externalOp (← id.uint64?) (← o.case?.bind Operator.ofName?) (← Term.readItems? b as)
  | "NextExternal", [some id, some t] => do
    return .nextExternal (← id.uint64?) (← Term.read? b t)
  | _, _ => none

def read? : Nat → Json → Option Event
  | b + 2, j => do
    let (tag, v) ← j.variant?
    ofFields? b tag (← v.fields? (fieldNames tag))
  | _, _ => none

def ofText? (s : String) : Option Event := (Json.read? s).bind (read? Json.depthLimit)

def parse (s : String) : Except Error Event :=
  match ofText? s with
  | some e => .ok e
  | none => .error (.malformed "not an event")

end PolicyBridge.Event
