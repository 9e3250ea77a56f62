import PolicyBridge.Decimal.Text
import PolicyBridge.Pattern.Group
import PolicyBridge.Text.Parts
/-!
Which texts say what to log: directives between commas, each a level, or a target, perhaps with a
span and its fields, followed by a level. A directive is scanned without the blanks around it, but
what it names are parts of it as it is written, at the places of the scan.
-/

namespace PolicyBridge.Cli.LogFilter

inductive Fault where
  | invalid
  | split
deriving DecidableEq

def isLevelName (s : String) : Bool :=
  s.toLower ∈ ["off", "error", "warn", "info", "debug", "trace"]

def isLevelNumber (cs : List Char) : Bool := (Decimal.natural? cs).any (· ≤ 5)

def isLevel (cs : List Char) : Bool :=
  cs.isEmpty || isLevelNumber cs || isLevelName (String.ofList cs)

def isValue (cs : List Char) : Bool :=
  (Decimal.parse? (String.ofList cs)).isSome || Pattern.isReadable cs

def isField (cs : List Char) : Bool :=
  match Text.splitAt '=' cs with
  | _ :: value :: _ => isValue value
  | _ => !cs.isEmpty

/-- Where in a directive the reader is, and where the part that it is in begins. -/
inductive Place where
  | start
  | target
  | span (start : Nat)
  | field (start : Nat)
  | fields
  | spanEnd
  | level (start : Nat)

def part (written : List Char) (start stop : Nat) : Except Fault (List Char) :=
  match Text.between? start stop written with
  | some cs => .ok cs
  | none => .error .split

def partFrom (written : List Char) (start : Nat) : Except Fault (List Char) :=
  match Text.from? start written with
  | some cs => .ok cs
  | none => .error .split

def require (b : Bool) : Except Fault Unit := if b then .ok () else .error .invalid

def beginsTarget (c : Char) : Bool := c ∈ ['-', ':', '_'] || Text.isAlphanumeric c

def step (written : List Char) (place : Place) (count : Nat) (c : Char) : Except Fault Place :=
  match place with
  | .start =>
    if c = '[' then .ok (.span (count + 1)) else do
      require (beginsTarget c)
      return .target
  | .target =>
    if c = '=' ∨ c = '[' then do
      let _ ← part written 0 count
      return if c = '=' then .level (count + 1) else .span (count + 1)
    else .ok .target
  | .span start =>
    if c = ']' ∨ c = '\x7b' then do
      let _ ← part written start count
      return if c = ']' then .spanEnd else .field (count + 1)
    else .ok (.span start)
  | .field start =>
    if c = '\x7d' then do
      require (isField (← part written start count))
      return .fields
    else .ok (.field start)
  | .fields => do
    require (c = ']')
    return .spanEnd
  | .spanEnd => do
    require (c = '=')
    return .level (count + 1)
  | .level start => .ok (.level start)

def scan (written : List Char) (place : Place) (count : Nat) : List Char → Except Fault Place
  | [] => .ok place
  | c :: cs => do scan written (← step written place count c) (count + c.utf8Size) cs

def finish (written : List Char) (place : Place) : Except Fault Unit :=
  match place with
  | .target => .ok ()
  | .spanEnd => .ok ()
  | .level start => do require (isLevel (← partFrom written start))
  | _ => .error .invalid

def trim (cs : List Char) : List Char :=
  ((cs.dropWhile Text.isBlank).reverse.dropWhile Text.isBlank).reverse

def checkDirective (written : List Char) : Except Fault Unit := do
  finish written (← scan written .start 0 (trim written))

def check (s : String) : Except Fault Unit :=
  ((Text.splitAt ',' s.toList).filter (!·.isEmpty)).forM checkDirective

end PolicyBridge.Cli.LogFilter
