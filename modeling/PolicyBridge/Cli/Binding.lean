import PolicyBridge.Cli.Arguments
import PolicyBridge.Json.Fields
import PolicyBridge.Text.Quoted
import PolicyBridge.Value.Basic
/-!
Variables bound on the command line, as `name=json`. A value that is no JSON text stands for
itself, as far as its quoted form is a JSON text.
-/

namespace PolicyBridge.Cli

variable {Obj : Type}

def nullBinding : String := "null has no policy representation"

def notABinding (pair : String) : String := "binding " ++ Text.quoted pair ++ " is not name=json"

def unreadableValue (name : String) : String :=
  "binding " ++ Text.quoted name ++ " has an unreadable value"

def numberValue (n : Json.Number) : HostValue Obj :=
  match n with
  | .natural n => if n.toNat < UInt64.size / 2 then .integer (Int64.ofInt n.toNat) else .float n.toFloat
  | .negative i => .integer i
  | .real x => .float x

def present (e : String × Option α) : Option (String × α) := e.2.map (e.1, ·)

mutual

/-- The host value of a document, unless there is a null in it. Of several members with one key
the last counts. -/
def hostValue? : Json → Option (HostValue Obj)
  | .null => none
  | .bool b => some (.boolean b)
  | .number n => n.value?.map numberValue
  | .string s => s.map .string
  | .array items => (hostValues? items).map .list
  | .object members => ((Dict.ofList (hostEntries members)).mapM present).map .map

def hostValues? : List Json → Option (List (HostValue Obj))
  | [] => some []
  | j :: js => do
    let v ← hostValue? j
    some (v :: (← hostValues? js))

def hostEntries : List (Option String × Json) → List (String × Option (HostValue Obj))
  | [] => []
  | (some k, j) :: ms => (k, hostValue? j) :: hostEntries ms
  | (none, _) :: ms => hostEntries ms

end

def isDocument (j : Json) : Bool := (j.canonical? Json.depthLimit).isSome

def jsonText? (s : String) : Option Json := (Json.read? s).filter isDocument

def document? (raw : String) : Option Json := (jsonText? raw).or (jsonText? (Text.quoted raw))

def readBinding (pair : String) : Except String (String × HostValue Obj) :=
  match splitEquals pair.toList with
  | (_, none) => .error (notABinding pair)
  | (name, some raw) =>
    let name := String.ofList name
    match document? (String.ofList raw) with
    | none => .error (unreadableValue name)
    | some j =>
      match hostValue? j with
      | none => .error nullBinding
      | some v => .ok (name, v)

def readBindings (pairs : List String) : Except String (Dict String (HostValue Obj)) := do
  return Dict.ofList (← pairs.mapM readBinding)

end PolicyBridge.Cli
