import PolicyBridge.Config.Document
import PolicyBridge.Decimal.Text
import PolicyBridge.Text.Parts
/-!
Settings out of environment variables. Those that begin with `POLAR_HOST_` name a setting by its
path, two underscores between the parts and places in lists between brackets; their texts are read
as truth values or numbers where they can be.
-/

namespace PolicyBridge.Config

abbrev Environment := List (String × String)

inductive Setting where
  | boolean (b : Bool)
  | integer (i : Int)
  | float (x : Float)
  | text (s : String)
  | nil
  | list (items : List Setting)
  | table (entries : List (String × Setting))

def leadingChars : List Char := "polar_host_".toList

def separate : List Char → List Char
  | '_' :: '_' :: r => '.' :: separate r
  | c :: r => c :: separate r
  | [] => []

def settingKey? (name : String) : Option (List Char) :=
  let cs := name.toLower.toList
  if leadingChars.isPrefixOf cs then some (separate (cs.drop leadingChars.length)) else none

def isKeyChar (c : Char) : Bool := c.isAlphanum || c = '_' || c = '-' || c = ' '

/-- A part of a path; places in a list may be counted from its end, by numbers below zero. -/
inductive Part where
  | key (name : String)
  | place (index : Int)

def int64? (s : String) : Option Int :=
  let (negative, cs) := Decimal.splitSign s.toList
  match Decimal.digits? cs with
  | none => none
  | some n =>
    let i : Int := if negative then -n else n
    if Int64.minValue.toInt ≤ i ∧ i ≤ Int64.maxValue.toInt then some i else none

def place? (cs : List Char) : Option Part :=
  let isSpace (c : Char) : Bool := c = ' ' || c = '\t'
  let inner := ((cs.dropWhile isSpace).reverse.dropWhile isSpace).reverse
  if inner.head? = some '+' then none else (int64? (String.ofList inner)).map .place

def key? (cs : List Char) : Option Part :=
  if !cs.isEmpty && cs.all isKeyChar then some (.key (String.ofList cs)) else none

def keyAndPlaces? (cs : List Char) : Option (List Part) :=
  match Text.splitAt '[' cs with
  | [] => none
  | name :: places => do
    let places ← places.mapM fun p => if p.getLast? = some ']' then place? p.dropLast else none
    return (← key? name) :: places

def settingPath (key : List Char) : List Part :=
  match (Text.splitAt '.' key).mapM keyAndPlaces? with
  | some parts => parts.flatten
  | none => [.key (String.ofList key)]

def listKey : List Char := "policy.files".toList

namespace Setting

def ofText (key : List Char) (s : String) : Setting :=
  if s.toLower = "true" then .boolean true
  else if s.toLower = "false" then .boolean false
  else
    match int64? s, Decimal.parse? s with
    | some i, _ => .integer i
    | none, some x => .float x
    | none, none =>
      if key = listKey then .list ((Text.split ',' s).map .text) else .text s

def entries : Setting → Dict String Setting
  | .table t => t
  | _ => []

def elements : Setting → List Setting
  | .list items => items
  | _ => []

def tooLong : Nat := 0x4000000

def position? (index : Int) (length : Nat) : Option Nat :=
  if 0 ≤ index then
    if index.toNat < tooLong then some index.toNat else none
  else if index.natAbs ≤ length then some (length - index.natAbs) else none

def grown (n : Nat) (items : List Setting) : List Setting :=
  items ++ List.replicate (n + 1 - items.length) .nil

/-- Sets what a path names; whatever is in the way gives way to a table or a list. -/
def put? : List Part → Setting → Setting → Option Setting
  | [], s, _ => some s
  | .key k :: ps, s, old => do
    let s ← put? ps s ((old.entries.find? k).getD .nil)
    return .table (old.entries.insert k s)
  | .place i :: ps, s, old => do
    let n ← position? i old.elements.length
    let items := grown n old.elements
    let s ← put? ps s (items[n]?.getD .nil)
    return .list (items.set n s)

def bool? : Setting → Option Bool
  | .boolean b => some b
  | .integer i => some (i ≠ 0)
  | .float x => some (x != 0)
  | .text s =>
    if s.toLower ∈ ["on", "yes"] then some true
    else if s.toLower ∈ ["off", "no"] then some false
    else none
  | _ => none

def natural? : Setting → Option UInt64
  | .boolean b => some (if b then 1 else 0)
  | .integer i => if 0 ≤ i then some (UInt64.ofNat i.toNat) else none
  | .float x => some x.round.toUInt64
  | .text s =>
    if s.toLower ∈ ["on", "yes"] then some 1
    else if s.toLower ∈ ["off", "no"] then some 0
    else none
  | _ => none

def text? : Setting → Option String
  | .boolean b => some (if b then "true" else "false")
  | .integer i => some (toString i)
  | .float x => some (Decimal.text x)
  | .text s => some s
  | _ => none

def fields? (names : List String) : Setting → Option (List (Option Setting))
  | .table t => some (names.map (Dict.find? t))
  | .list items => some ((List.range names.length).map fun n => items[n]?)
  | _ => none

def items? : Setting → Option (List Setting)
  | .list items => some items
  | _ => none

end Setting

def environmentFormat : Format Setting where
  fields? := Setting.fields?
  bool? := Setting.bool?
  natural? := Setting.natural?
  text? := Setting.text?
  items? := Setting.items?

def settingTexts (env : Environment) : Dict String String :=
  Dict.ofList (env.filterMap fun v => (settingKey? v.1).map fun k => (String.ofList k, v.2))

def settingsOf? (env : Environment) : Option Setting :=
  (settingTexts env).foldlM
    (fun t v => Setting.put? (settingPath v.1.toList) (.ofText v.1.toList v.2) t) (.table [])

def invalidEnvironment : Error :=
  .config "invalid environment configuration: the variables do not describe settings" none

def ofEnvironment (env : Environment) : Except Error Config :=
  match (settingsOf? env).bind environmentFormat.config? with
  | none => .error invalidEnvironment
  | some c => do
    c.validate
    return c

end PolicyBridge.Config
