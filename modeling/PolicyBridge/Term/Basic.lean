import PolicyBridge.Dict

namespace PolicyBridge

inductive Term where
  | integer (i : Int64)
  | float (x : Float)
  | string (s : String)
  | boolean (b : Bool)
  /-- A host object, by id; the rest is for diagnostics. -/
  | external (id : UInt64) (constructor : Option Term) (repr classRepr : Option String)
  | literal (tag : String) (fields : List (String × Term))
  | dictionary (fields : List (String × Term))
  | dictionaryPattern (fields : List (String × Term))
  | instancePattern (tag : String) (fields : List (String × Term))
  | call (name : String) (args : List Term) (kwargs : Option (List (String × Term)))
  | list (elements : List Term) (rest : Option String)
  | var (name : String)

abbrev Bindings := Dict String Term

namespace Term

instance : Inhabited Term := ⟨.boolean false⟩

def kind : Term → String
  | .integer _ => "Integer"
  | .float _ => "Float"
  | .string _ => "String"
  | .boolean _ => "Boolean"
  | .external .. => "ExternalInstance"
  | .literal .. => "InstanceLiteral"
  | .dictionary _ => "Dictionary"
  | .dictionaryPattern _ => "Pattern"
  | .instancePattern .. => "Pattern"
  | .call .. => "Call"
  | .list .. => "List"
  | .var _ => "Variable"

def ofId (id : UInt64) : Term := .external id none none none

mutual

def beq : Term → Term → Bool
  | .integer i, .integer j => i == j
  | .float x, .float y => x == y
  | .string s, .string t => s == t
  | .boolean a, .boolean b => a == b
  | .external i c r k, .external i' c' r' k' => i == i' && beqOptional c c' && r == r' && k == k'
  | .literal t fs, .literal t' fs' => t == t' && beqFields fs fs'
  | .dictionary fs, .dictionary fs' => beqFields fs fs'
  | .dictionaryPattern fs, .dictionaryPattern fs' => beqFields fs fs'
  | .instancePattern t fs, .instancePattern t' fs' => t == t' && beqFields fs fs'
  | .call n as ks, .call n' as' ks' => n == n' && beqAll as as' && beqKeywords ks ks'
  | .list es r, .list es' r' => beqAll es es' && r == r'
  | .var n, .var n' => n == n'
  | _, _ => false

def beqOptional : Option Term → Option Term → Bool
  | none, none => true
  | some t, some u => beq t u
  | _, _ => false

def beqAll : List Term → List Term → Bool
  | [], [] => true
  | t :: ts, u :: us => beq t u && beqAll ts us
  | _, _ => false

def beqFields : List (String × Term) → List (String × Term) → Bool
  | [], [] => true
  | (k, t) :: ts, (l, u) :: us => k == l && beq t u && beqFields ts us
  | _, _ => false

def beqKeywords : Option (List (String × Term)) → Option (List (String × Term)) → Bool
  | none, none => true
  | some ts, some us => beqFields ts us
  | _, _ => false

end

instance : BEq Term := ⟨beq⟩

end Term

end PolicyBridge
