import PolicyBridge.Text.Utf8
/-!
Text for a terminal and text without its control sequences. What is left out are the sequences that
an escape character begins, and controls other than blanks. A blank within a sequence is kept, and
what follows it is taken for text until the next control.
-/

namespace PolicyBridge.Text.Terminal

inductive Mode where
  | plain
  | character (left : Nat)
  | escape
  | escapeMiddle
  | control
  | controlParameters
  | controlMiddle
  | controlIgnored
  | device
  | deviceParameters
  | deviceMiddle
  | deviceIgnored
  | deviceData
  | command
  | message

def isIn (low high b : UInt8) : Bool := low ≤ b && b ≤ high

def afterEscape (b : UInt8) : Option Mode :=
  if isIn 0x20 0x2f b then some .escapeMiddle
  else if b = 0x50 then some .device
  else if b = 0x58 ∨ b = 0x5e ∨ b = 0x5f then some .message
  else if b = 0x5b then some .control
  else if b = 0x5d then some .command
  else if isIn 0x30 0x7e b then some .plain
  else none

def Mode.next (m : Mode) (b : UInt8) : Option Mode :=
  if b = 0x18 ∨ b = 0x1a then some .plain
  else if b = 0x1b then some .escape
  else
    match m with
    | .plain =>
      if isIn 0xc2 0xdf b then some (.character 2)
      else if isIn 0xe0 0xef b then some (.character 3)
      else if isIn 0xf0 0xf4 b then some (.character 4)
      else none
    | .character _ => none
    | .escape => afterEscape b
    | .escapeMiddle => if isIn 0x30 0x7e b then some .plain else none
    | .control =>
      if isIn 0x20 0x2f b then some .controlMiddle
      else if isIn 0x30 0x3f b then some .controlParameters
      else if isIn 0x40 0x7e b then some .plain
      else none
    | .controlParameters =>
      if isIn 0x20 0x2f b then some .controlMiddle
      else if isIn 0x3c 0x3f b then some .controlIgnored
      else if isIn 0x40 0x7e b then some .plain
      else none
    | .controlMiddle =>
      if isIn 0x30 0x3f b then some .controlIgnored
      else if isIn 0x40 0x7e b then some .plain
      else none
    | .controlIgnored => if isIn 0x40 0x7e b then some .plain else none
    | .device =>
      if isIn 0x20 0x2f b then some .deviceMiddle
      else if isIn 0x30 0x3f b then some .deviceParameters
      else if isIn 0x40 0x7e b then some .deviceData
      else none
    | .deviceParameters =>
      if isIn 0x20 0x2f b then some .deviceMiddle
      else if isIn 0x3c 0x3f b then some .deviceIgnored
      else if isIn 0x40 0x7e b then some .deviceData
      else none
    | .deviceMiddle =>
      if isIn 0x30 0x3f b then some .deviceIgnored
      else if isIn 0x40 0x7e b then some .deviceData
      else none
    | .deviceIgnored => if b = 0x9c then some .plain else none
    | .deviceData => if b = 0x9c then some .plain else none
    | .command => if b = 0x07 then some .plain else none
    | .message => if b = 0x9c then some .plain else none

def isBlankControl (b : UInt8) : Bool := b = 0x09 || b = 0x0a || b = 0x0c || b = 0x0d

def Mode.shows (m : Mode) (b : UInt8) : Bool :=
  match m with
  | .plain => isIn 0x20 0x7e b || isIn 0xc2 0xf4 b || isBlankControl b
  | .character _ => true
  | .escape => isBlankControl b
  | .escapeMiddle => isBlankControl b
  | .control => isBlankControl b
  | .controlParameters => isBlankControl b
  | .controlMiddle => isBlankControl b
  | .controlIgnored => isBlankControl b
  | _ => false

structure State where
  mode : Mode
  inText : Bool

/-- The next byte within text: where it shows it is read as if no sequence had begun. -/
def State.readText (m : Mode) (b : UInt8) : State × List UInt8 :=
  match m with
  | .character (n + 1) => (⟨if n = 0 then .plain else .character n, true⟩, [b])
  | _ =>
    let next := (Mode.plain.next b).getD m
    match next with
    | .character n => (⟨.character (n - 1), true⟩, [b])
    | _ =>
      if Mode.plain.shows b then (⟨next, true⟩, [b])
      else (⟨(next.next b).getD next, false⟩, [])

def State.step (s : State) (b : UInt8) : State × List UInt8 :=
  if s.inText then State.readText s.mode b
  else if s.mode.shows b then State.readText s.mode b
  else (⟨(s.mode.next b).getD s.mode, false⟩, [])

def plainBytes (s : State) : List UInt8 → List UInt8
  | [] => []
  | b :: bs =>
    let (s, shown) := s.step b
    shown ++ plainBytes s bs

def plainText (s : String) : String :=
  decodeLossy (plainBytes ⟨.plain, false⟩ s.toUTF8.toList)

def bold : String := "\x1b[1m"

def underlined : String := "\x1b[4m"

def unstyled : String := "\x1b[0m"

end PolicyBridge.Text.Terminal
