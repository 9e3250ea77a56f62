import PolicyBridge.Script.Policy

namespace PolicyBridge.Script

inductive Reply where
  | result (j : Json)
  | applicationError (message : String)

structure Query where
  rule : Rule
  position : Nat
  args : List Json
  bound : Dict String Json
  constants : Dict String Json
  reply : Option Reply
  refusal : Option Payload

inductive Produced where
  | text (bytes : List UInt8)
  | failure (p : Payload)

namespace Query

def start (rule : Rule) (args : List Json) (constants : Dict String Json) : Query :=
  ⟨rule, 0, args, [], constants, none, none⟩

def reply? (q : Query) : Option Json :=
  match q.reply with
  | some (.result j) => some j
  | _ => none

def placeholder? (q : Query) (tag : String) (j : Json) : Option Json :=
  match tag with
  | "$arg" => some ((q.args[(j.uint64?.getD 0).toNat]?).getD .null)
  | "$bind" => some ((q.bound.find? (j.string?.getD "")).getD .null)
  | "$const" => some ((q.constants.find? (j.string?.getD "")).getD .null)
  | "$reply" => some (q.reply?.getD .null)
  | _ => none

mutual

def fill (q : Query) : Json → Json
  | .array items => .array (fillItems q items)
  | .object [(some tag, j)] =>
    match q.placeholder? tag j with
    | some v => v
    | none => .object [(some tag, fill q j)]
  | .object members => .object (fillMembers q members)
  | j => j

def fillItems (q : Query) : List Json → List Json
  | [] => []
  | j :: js => fill q j :: fillItems q js

def fillMembers (q : Query) : List (Option String × Json) → List (Option String × Json)
  | [] => []
  | (k, j) :: ms => (k, fill q j) :: fillMembers q ms

end

def doneText : List UInt8 := "\x7b\"Done\":\x7b\"result\":true\x7d\x7d".toUTF8.toList

def raisedPayload (message : String) : String :=
  (Json.record [("formatted", .text message), ("kind", .variant "Runtime" (.variant "Application"
    (.record [("msg", .text message)])))]).write

def advance (q : Query) : Query := { q with position := q.position + 1 }

def finish (q : Query) : Query := { q with position := q.rule.steps.length }

def step (q : Query) : Step → Option Produced × Query
  | .emit j => (some (.text (q.fill j).write.toUTF8.toList), q.advance)
  | .emitBytes bytes => (some (.text bytes), q.advance)
  | .fail p => (some (.failure p), q.advance)
  | .expect j =>
    match q.reply? with
    | some r => (none, if r == q.fill j then q.advance else q.finish)
    | none => (none, q.finish)
  | .raise =>
    match q.reply with
    | some (.applicationError m) => (some (.failure (some (raisedPayload m))), q.advance)
    | _ => (none, q.advance)
  | .refuse p => (none, { q.advance with refusal := some p })
  | .loop target =>
    match q.reply? with
    | some .null => (none, q.advance)
    | some _ => (none, { q with position := target })
    | none => (none, q.advance)
  | .skip => (none, q.advance)

/-- Plays steps until one produces something. Without a product no step is played twice, as the
reply that directs the steps does not change meanwhile. -/
def play : Nat → Query → Produced × Query
  | 0, q => (.text doneText, q)
  | n + 1, q =>
    match q.rule.steps[q.position]? with
    | none => (.text doneText, q)
    | some s =>
      match q.step s with
      | (some p, q) => (p, q)
      | (none, q) => play n q

def poll (q : Query) : Produced × Query := q.play (q.rule.steps.length + 1)

end Query

end PolicyBridge.Script
