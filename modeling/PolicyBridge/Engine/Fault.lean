import PolicyBridge.Json.Fields
import PolicyBridge.Text.Quoted
import PolicyBridge.Error
/-!
Failures as the engine reports them, and the errors they become: a fault of a policy that is being
loaded blames the policy, a fault of a running query blames the protocol.
-/

namespace PolicyBridge

inductive Fault.Kind where
  | parse
  | validation
  | runtime
  | operational
  | application
  | unknown (name : String)
deriving DecidableEq

structure Fault where
  kind : Fault.Kind
  message : String
deriving DecidableEq

namespace Fault

def Kind.display : Kind → String
  | .parse => "Parse"
  | .validation => "Validation"
  | .runtime => "Runtime"
  | .operational => "Operational"
  | .application => "Application"
  | .unknown name => "Unknown(" ++ Text.quoted name ++ ")"

def display (f : Fault) : String := f.kind.display ++ ": " ++ f.message

def Kind.ofName (name : String) (details : Option Json) : Kind :=
  match name with
  | "Parse" => .parse
  | "Validation" => .validation
  | "Operational" => .operational
  | "Runtime" => if ((details.bind (Json.get? "Application"))).isSome then .application else .runtime
  | other => .unknown other

def Kind.ofJson : Option Json → Kind
  | some (.object ((some name, details) :: _)) => .ofName name (some details)
  | some (.string (some name)) => .ofName name none
  | _ => .unknown ""

def ofPayload (payload : String) : Fault :=
  match Json.readValue? payload with
  | none => ⟨.unknown "unparsed", payload⟩
  | some j => ⟨.ofJson (j.get? "kind"), ((j.get? "formatted").bind Json.string?).getD payload⟩

def missing : Fault := ⟨.unknown "missing", "native call failed without error details"⟩

def freed : Fault := ⟨.unknown "Freed", "query used after it was freed"⟩

def interiorNul (position : Nat) : Fault :=
  ⟨.unknown "Encoding", "string contains an interior NUL byte: nul byte found in provided data " ++
    "at position: " ++ toString position⟩

def malformedEvent (text : String) : Fault :=
  ⟨.unknown "MalformedEvent", "could not decode event " ++ text ++ ": not an event"⟩

def loadError (f : Fault) : Error :=
  match f.kind with
  | .application => .protocol f.message
  | .unknown _ => .protocol f.message
  | _ => .load f.message none

def queryError (f : Fault) : Error :=
  match f.kind with
  | .application => .raised f.message
  | _ => .protocol f.message

end Fault

end PolicyBridge
