import PolicyBridge.Json.Fields
/-!
Policies that say outright what the engine does: a rule is a list of steps to play, and each
operation of the engine may be told to fail.
-/

namespace PolicyBridge.Script

abbrev Payload := Option String

inductive Step where
  | emit (j : Json)
  | emitBytes (bytes : List UInt8)
  | fail (p : Payload)
  | expect (j : Json)
  | raise
  | refuse (p : Payload)
  | loop (target : Nat)
  | skip

structure Rule where
  steps : List Step
  newError : Option Payload
  bindErrors : Dict String Payload
  freeError : Option Payload

def Rule.empty : Rule := ⟨[], none, [], none⟩

structure Policy where
  rules : Dict String Rule
  constantErrors : Dict String Payload
  clearError : Option Payload
  loadError : Option Payload
  nextId : Option UInt64

def payload (j : Json) : Payload := j.string?

def payloads : Json → Dict String Payload
  | .object members => Dict.ofList (members.filterMap fun m => m.1.map fun k => (k, payload m.2))
  | _ => []

def hexBytes : List Char → List UInt8
  | a :: b :: r =>
    UInt8.ofNat (16 * (Json.hexValue? a).getD 0 + (Json.hexValue? b).getD 0) :: hexBytes r
  | _ => []

def Step.ofMember (tag : String) (j : Json) : Step :=
  match tag with
  | "emit" => .emit j
  | "emit_text" => .emitBytes ((j.string?.getD "").toUTF8.toList)
  | "emit_hex" => .emitBytes (hexBytes (j.string?.getD "").toList)
  | "fail" => .fail (payload j)
  | "expect" => .expect j
  | "raise" => .raise
  | "refuse" => .refuse (payload j)
  | "loop" => .loop (j.uint64?.getD 0).toNat
  | _ => .skip

def Step.ofJson : Json → Step
  | .object [(some tag, j)] => .ofMember tag j
  | _ => .skip

def stepsOf : Option Json → List Step
  | some (.array items) => items.map Step.ofJson
  | _ => []

def Rule.ofJson : Json → Rule
  | .object members =>
    let j := Json.object members
    { steps := stepsOf (j.get? "steps")
      newError := (j.get? "new_error").map payload
      bindErrors := payloads ((j.get? "bind_errors").getD .null)
      freeError := (j.get? "free_error").map payload }
  | j => { Rule.empty with steps := stepsOf (some j) }

def rulesOf : Json → Dict String Rule
  | .object members =>
    Dict.ofList (members.filterMap fun m => m.1.map fun k => (k, Rule.ofJson m.2))
  | _ => []

def Policy.ofJson (j : Json) : Policy where
  rules := rulesOf ((j.get? "rules").getD .null)
  constantErrors := payloads ((j.get? "constant_errors").getD .null)
  clearError := (j.get? "clear_error").map payload
  loadError := (j.get? "load_error").map payload
  nextId := (j.get? "next_id").bind Json.uint64?

def Policy.ofText? (s : String) : Option Policy :=
  match Json.readAny? s with
  | some (.object members) => some (.ofJson (.object members))
  | _ => none

end PolicyBridge.Script
