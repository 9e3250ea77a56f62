namespace PolicyBridge.Text

def following (b : UInt8) : Option (Nat × UInt8 × UInt8) :=
  if b < 0x80 then some (0, 0x80, 0xbf)
  else if b < 0xc2 then none
  else if b < 0xe0 then some (1, 0x80, 0xbf)
  else if b = 0xe0 then some (2, 0xa0, 0xbf)
  else if b = 0xed then some (2, 0x80, 0x9f)
  else if b < 0xf0 then some (2, 0x80, 0xbf)
  else if b = 0xf0 then some (3, 0x90, 0xbf)
  else if b < 0xf4 then some (3, 0x80, 0xbf)
  else if b = 0xf4 then some (3, 0x80, 0x8f)
  else none

def leadingBits (count : Nat) (b : UInt8) : Nat :=
  match count with
  | 0 => b.toNat
  | 1 => b.toNat % 0x20
  | 2 => b.toNat % 0x10
  | _ => b.toNat % 0x08

structure Partial where
  value : Nat
  left : Nat
  low : UInt8
  high : UInt8

def beginWith (b : UInt8) : List (Option Char) × Option Partial :=
  match following b with
  | none => ([none], none)
  | some (0, _, _) => ([some (Char.ofNat b.toNat)], none)
  | some (n, low, high) => ([], some ⟨leadingBits n b, n, low, high⟩)

def continueWith (p : Partial) (b : UInt8) : List (Option Char) × Option Partial :=
  if p.low ≤ b ∧ b ≤ p.high then
    let value := 0x40 * p.value + b.toNat % 0x40
    if p.left ≤ 1 then ([some (Char.ofNat value)], none)
    else ([], some ⟨value, p.left - 1, 0x80, 0xbf⟩)
  else
    let (parts, pending) := beginWith b
    (none :: parts, pending)

/-- Each well-formed sequence as its character, each maximal ill-formed part as `none`. -/
def decodeParts : Option Partial → List UInt8 → List (Option Char)
  | none, [] => []
  | some _, [] => [none]
  | none, b :: r =>
    let (parts, pending) := beginWith b
    parts ++ decodeParts pending r
  | some p, b :: r =>
    let (parts, pending) := continueWith p b
    parts ++ decodeParts pending r

def decodeUtf8? (bytes : List UInt8) : Option String :=
  ((decodeParts none bytes).mapM id).map String.ofList

def decodeLossy (bytes : List UInt8) : String :=
  String.ofList ((decodeParts none bytes).map fun c => c.getD '\ufffd')

end PolicyBridge.Text
