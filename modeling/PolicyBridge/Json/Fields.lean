import PolicyBridge.Json.Text
/-!
Taking documents apart by type. Records are objects, or arrays of their fields in order; sum types
are objects with one member. Below the limit of a `budget` no array or object may be entered.
-/

namespace PolicyBridge.Json

def depthLimit : Nat := 127

def string? : Json → Option String
  | .string s => s
  | _ => none

def bool? : Json → Option Bool
  | .bool b => some b
  | _ => none

def number? : Json → Option Number
  | .number n => n.value?
  | _ => none

def int64? (j : Json) : Option Int64 :=
  match j.number? with
  | some (.natural n) => if n.toNat < UInt64.size / 2 then some (Int64.ofInt n.toNat) else none
  | some (.negative i) => some i
  | _ => none

def uint64? (j : Json) : Option UInt64 :=
  match j.number? with
  | some (.natural n) => some n
  | _ => none

def float? (j : Json) : Option Float :=
  match j.number? with
  | some (.natural n) => some n.toFloat
  | some (.negative i) => some i.toFloat
  | some (.real x) => some x
  | none => none

def absentOr (f : Json → Option α) : Json → Option (Option α)
  | .null => some none
  | j => (f j).map some

/-- Every occurrence of a key among members; `none` when some key is no text. -/
def memberKeys? (members : List (Option String × Json)) : Option (List (String × Json)) :=
  members.mapM fun m => m.1.map fun k => (k, m.2)

def fieldOf? (name : String) (members : List (String × Json)) : Option (Option Json) :=
  match members.filter fun m => m.1 = name with
  | [] => some none
  | [m] => some (some m.2)
  | _ => none

def fields? (names : List String) : Json → Option (List (Option Json))
  | .object members => do
    let members ← memberKeys? members
    names.mapM fun n => fieldOf? n members
  | .array items =>
    if items.length ≤ names.length then
      some (items.map some ++ List.replicate (names.length - items.length) none)
    else none
  | _ => none

def variant? : Json → Option (String × Json)
  | .object [(some tag, body)] => some (tag, body)
  | _ => none

def case? : Json → Option String
  | .string s => s
  | .object [(some tag, .null)] => some tag
  | _ => none

def items? (f : Json → Option α) : Json → Option (List α)
  | .array items => items.mapM f
  | _ => none

def dict? (f : Json → Option α) : Json → Option (Dict String α)
  | .object members => do
    let entries ← members.mapM fun m => do some (← m.1, ← f m.2)
    some (Dict.ofList entries)
  | _ => none

def ofDict (d : Dict String Json) : Json := record d

/-- An untyped document: members ordered by key, numbers in one written form. -/
def canonical? : Nat → Json → Option Json
  | _, .null => some .null
  | _, .bool b => some (.bool b)
  | _, .number n => n.value?.map fun v => .number (.ofNumber v)
  | _, .string s => s.map text
  | 0, _ => none
  | b + 1, .array items => (items.mapM fun j => canonical? b j).map .array
  | b + 1, .object members => do
    let entries ← members.mapM fun m => do some (← m.1, ← canonical? b m.2)
    some (ofDict (Dict.ofList entries))

def readValue? (s : String) : Option Json := (read? s).bind (canonical? depthLimit)

def readAny? (s : String) : Option Json := (read? s).bind fun j => canonical? j.depth j

mutual

def sortKeys : Json → Json
  | .array items => .array (sortItems items)
  | .object members => .object ((sortMembers members).mergeSort fun a b => decide (¬ b.1.getD "" < a.1.getD ""))
  | j => j

def sortItems : List Json → List Json
  | [] => []
  | j :: js => sortKeys j :: sortItems js

def sortMembers : List (Option String × Json) → List (Option String × Json)
  | [] => []
  | (k, j) :: ms => (k, sortKeys j) :: sortMembers ms

end

def get? (name : String) : Json → Option Json
  | .object members => (members.find? fun m => m.1 = some name).map Prod.snd
  | _ => none

end PolicyBridge.Json
