import PolicyBridge.Dict
import PolicyBridge.Json.Numeral
/-!
JSON documents as they are written: members keep their order and repetitions, numbers are
literals. A quoted text is `none` when its escapes name no Unicode text.
-/

namespace PolicyBridge

inductive Json where
  | null
  | bool (b : Bool)
  | number (n : Json.Numeral)
  | string (s : Option String)
  | array (items : List Json)
  | object (members : List (Option String × Json))

namespace Json

instance : Inhabited Json := ⟨.null⟩

def text (s : String) : Json := .string (some s)

def int (i : Int) : Json := .number (.ofInt i)

def nat (n : Nat) : Json := .number (.ofNat n)

def record (members : List (String × Json)) : Json :=
  .object (members.map fun m => (some m.1, m.2))

def variant (tag : String) (body : Json) : Json := record [(tag, body)]

def optional (f : α → Json) : Option α → Json
  | none => .null
  | some a => f a

def float (x : Float) : Json := if x.isFinite then .number (.ofFloat x) else .null

mutual

def depth : Json → Nat
  | .array items => depthItems items + 1
  | .object members => depthMembers members + 1
  | _ => 0

def depthItems : List Json → Nat
  | [] => 0
  | j :: js => max (depth j) (depthItems js)

def depthMembers : List (Option String × Json) → Nat
  | [] => 0
  | (_, j) :: ms => max (depth j) (depthMembers ms)

end

def numeralBeq (m n : Numeral) : Bool :=
  match m.value?, n.value? with
  | some (.natural a), some (.natural b) => a == b
  | some (.negative a), some (.negative b) => a == b
  | some (.real x), some (.real y) => x == y
  | none, none => m == n
  | _, _ => false

mutual

def beq : Json → Json → Bool
  | .null, .null => true
  | .bool a, .bool b => a == b
  | .number m, .number n => numeralBeq m n
  | .string s, .string t => s == t
  | .array xs, .array ys => beqItems xs ys
  | .object xs, .object ys => beqMembers xs ys
  | _, _ => false

def beqItems : List Json → List Json → Bool
  | [], [] => true
  | x :: xs, y :: ys => beq x y && beqItems xs ys
  | _, _ => false

def beqMembers : List (Option String × Json) → List (Option String × Json) → Bool
  | [], [] => true
  | (k, x) :: xs, (l, y) :: ys => k == l && beq x y && beqMembers xs ys
  | _, _ => false

end

instance : BEq Json := ⟨beq⟩

end Json

end PolicyBridge
