import PolicyBridge.Json.Token
import PolicyBridge.Text.Utf8
import PolicyBridge.Yaml.Cursor

namespace PolicyBridge.Yaml

def endsAnchor (c : Option Char) : Bool :=
  endsWord c || c.any fun c => c ∈ ['?', ':', ',', ']', '}', '%', '@', '\x60']

def anchorName : Scan (List Char) := fun k =>
  let k := k.skip 1
  let name := k.rest.takeWhile isNameChar
  let k := k.skip name.length
  if name.isEmpty || !endsAnchor k.head? then none else some (name, k)

structure Tag where
  handle : List Char
  suffix : List Char
deriving DecidableEq

namespace Tag

def isUriChar (verbatim : Bool) (c : Char) : Bool :=
  isNameChar c || c ∈ [';', '/', '?', ':', '@', '&', '=', '+', '$', '.', '!', '~', '*', '\'', '(',
    ')'] || (verbatim && c ∈ [',', '[', ']'])

def escapedBytes : List Char → Option (List UInt8)
  | '%' :: a :: b :: r =>
    match Json.hexValue? a, Json.hexValue? b with
    | some a, some b => (escapedBytes r).map (UInt8.ofNat (16 * a + b) :: ·)
    | _, _ => none
  | '%' :: _ => none
  | _ => some []

def uriFrom (verbatim : Bool) : Nat → List Char → Cursor → Option (List Char × Cursor)
  | 0, _, _ => none
  | n + 1, text, k =>
    match k.head? with
    | some '%' =>
      match escapedBytes k.rest with
      | none => none
      | some bytes =>
        match Text.decodeUtf8? bytes with
        | none => none
        | some s => uriFrom verbatim n (text ++ s.toList) (k.skip (3 * bytes.length))
    | some c =>
      if isUriChar verbatim c then uriFrom verbatim n (text ++ [c]) (k.skip 1)
      else some (text, k)
    | none => some (text, k)

def uri (verbatim : Bool) : Scan (List Char) := fun k =>
  uriFrom verbatim (k.rest.length + 1) [] k

def nonempty (text : List Char) : Option (List Char) := if text.isEmpty then none else some text

def scanHandle : Scan (List Char) := fun k =>
  if k.startsWith '!' then
    let name := (k.skip 1).rest.takeWhile isNameChar
    let k := k.skip (name.length + 1)
    if k.startsWith '!' then some ('!' :: name ++ ['!'], k.skip 1) else some ('!' :: name, k)
  else none

def shorthand : Scan Tag := do
  let h ← scanHandle
  if 1 < h.length ∧ h.getLast? = some '!' then
    return ⟨h, ← nonempty (← uri false)⟩
  let rest ← uri false
  let suffix := h.drop 1 ++ rest
  return if suffix.isEmpty then ⟨[], ['!']⟩ else ⟨['!'], suffix⟩

def verbatim : Scan Tag := do
  modify fun k => k.skip 2
  let suffix ← nonempty (← uri true)
  unless (← get).startsWith '>' do failure
  modify fun k => k.skip 1
  return ⟨[], suffix⟩

def scan (flow : Bool) : Scan Tag := do
  let tag ← if (← get).rest[1]? = some '<' then verbatim else shorthand
  let next := (← get).head?
  unless endsWord next || (flow && next = some ',') do failure
  return tag

end Tag

inductive Directive where
  | version (major minor : Nat)
  | tag (handle expansion : List Char)
deriving DecidableEq

namespace Directive

def skipBlanks : Scan Unit := modify fun k => k.skipWhile isBlank

def number : Scan Nat := fun k =>
  let digits := k.rest.takeWhile Char.isDigit
  if digits.isEmpty || 9 < digits.length then none
  else some (digits.foldl (fun n c => 10 * n + (c.toNat - '0'.toNat)) 0, k.skip digits.length)

def scanVersion : Scan Directive := do
  skipBlanks
  let major ← number
  unless (← get).startsWith '.' do failure
  modify fun k => k.skip 1
  return .version major (← number)

def scanTagHandle : Scan (List Char) := do
  let h ← Tag.scanHandle
  if 1 < h.length ∧ h.getLast? ≠ some '!' then failure
  return h

def scanTag : Scan Directive := do
  skipBlanks
  let handle ← scanTagHandle
  unless (← get).head?.any isBlank do failure
  skipBlanks
  let expansion ← Tag.nonempty (← Tag.uri true)
  unless endsWord (← get).head? do failure
  return .tag handle expansion

def named (name : String) : Scan Directive :=
  match name with
  | "YAML" => scanVersion
  | "TAG" => scanTag
  | _ => failure

def scan : Scan Directive := do
  modify fun k => k.skip 1
  let name := (← get).rest.takeWhile isNameChar
  modify fun k => k.skip name.length
  unless endsWord (← get).head? do failure
  let d ← named (String.ofList name)
  set (← (← get).skipLineEnd)
  return d

end Directive

end PolicyBridge.Yaml
