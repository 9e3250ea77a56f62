import PolicyBridge.Json.Basic

namespace PolicyBridge.Json

inductive Mark where
  | openArray
  | closeArray
  | openObject
  | closeObject
  | comma
  | colon
deriving DecidableEq

inductive Token where
  | mark (m : Mark)
  | text (s : Option String)
  | word (j : Json)

inductive Piece where
  | char (c : Char)
  | escaped (unit : Nat)

namespace Mark

def ofChar? : Char → Option Mark
  | '[' => some .openArray
  | ']' => some .closeArray
  | '{' => some .openObject
  | '}' => some .closeObject
  | ',' => some .comma
  | ':' => some .colon
  | _ => none

end Mark

def isBlank (c : Char) : Bool := c = ' ' || c = '\t' || c = '\n' || c = '\r'

def hexValue? (c : Char) : Option Nat :=
  if '0' ≤ c ∧ c ≤ '9' then some (c.toNat - 48)
  else if 'a' ≤ c ∧ c ≤ 'f' then some (c.toNat - 87)
  else if 'A' ≤ c ∧ c ≤ 'F' then some (c.toNat - 55)
  else none

/-- Half pairs stand for a character only as a high half followed by a low one. -/
def Piece.decode : List Piece → Option (List Char)
  | [] => some []
  | .char c :: r => (decode r).map (c :: ·)
  | .escaped u :: r =>
    if 0xd800 ≤ u ∧ u < 0xdc00 then
      match r with
      | .escaped v :: r =>
        if 0xdc00 ≤ v ∧ v < 0xe000 then
          (decode r).map (Char.ofNat (0x10000 + (u - 0xd800) * 0x400 + (v - 0xdc00)) :: ·)
        else none
      | _ => none
    else if 0xdc00 ≤ u ∧ u < 0xe000 then none
    else (decode r).map (Char.ofNat u :: ·)

def simpleEscape? : Char → Option Char
  | '"' => some '"'
  | '\\' => some '\\'
  | '/' => some '/'
  | 'b' => some '\x08'
  | 'f' => some '\x0c'
  | 'n' => some '\n'
  | 'r' => some '\r'
  | 't' => some '\t'
  | _ => none

def hexDigit (n : Nat) : Char := if n < 10 then Char.ofNat (48 + n) else Char.ofNat (87 + n)

def escapeChar (c : Char) : List Char :=
  if c = '"' then ['\\', '"']
  else if c = '\\' then ['\\', '\\']
  else if c = '\n' then ['\\', 'n']
  else if c = '\r' then ['\\', 'r']
  else if c = '\t' then ['\\', 't']
  else if c = '\x08' then ['\\', 'b']
  else if c = '\x0c' then ['\\', 'f']
  else if c.toNat < 0x20 then
    ['\\', 'u', '0', '0', hexDigit (c.toNat / 16), hexDigit (c.toNat % 16)]
  else [c]

/-- A text that is no Unicode text is written as a lone half pair. -/
def quotedChars : Option String → List Char
  | some s => '"' :: s.toList.flatMap escapeChar ++ ['"']
  | none => ['"', '\\', 'u', 'd', '8', '0', '0', '"']

def wordChars : Json → List Char
  | .bool true => ['t', 'r', 'u', 'e']
  | .bool false => ['f', 'a', 'l', 's', 'e']
  | .number n => n.chars
  | _ => ['n', 'u', 'l', 'l']

def readWord? (cs : List Char) : Option Json :=
  if cs = ['n', 'u', 'l', 'l'] then some .null
  else if cs = ['t', 'r', 'u', 'e'] then some (.bool true)
  else if cs = ['f', 'a', 'l', 's', 'e'] then some (.bool false)
  else (Numeral.ofChars? cs).map .number

inductive Mode where
  | between
  | word (seen : List Char)
  | text (seen : List Piece)
  | escape (seen : List Piece)
  | hex (seen : List Piece) (value : Nat) (left : Nat)

structure Scan where
  mode : Mode
  tokens : List Token

namespace Scan

def start : Scan := ⟨.between, []⟩

def push (s : Scan) (t : Token) : Scan := ⟨.between, t :: s.tokens⟩

def finishWord (s : Scan) (seen : List Char) : Option Scan :=
  (readWord? seen.reverse).map fun j => s.push (.word j)

def finishText (s : Scan) (seen : List Piece) : Scan :=
  s.push (.text ((Piece.decode seen.reverse).map String.ofList))

def stepBetween (s : Scan) (c : Char) : Scan :=
  if isBlank c then { s with mode := .between }
  else if c = '"' then { s with mode := .text [] }
  else match Mark.ofChar? c with
    | some m => s.push (.mark m)
    | none => { s with mode := .word [c] }

def endsWord (c : Char) : Bool := isBlank c || c = '"' || (Mark.ofChar? c).isSome

def step (s : Scan) (c : Char) : Option Scan :=
  match s.mode with
  | .between => some (s.stepBetween c)
  | .word seen =>
    if endsWord c then (s.finishWord seen).map fun s => s.stepBetween c
    else some { s with mode := .word (c :: seen) }
  | .text seen =>
    if c = '"' then some (s.finishText seen)
    else if c = '\\' then some { s with mode := .escape seen }
    else if c.toNat < 0x20 then none
    else some { s with mode := .text (.char c :: seen) }
  | .escape seen =>
    if c = 'u' then some { s with mode := .hex seen 0 4 }
    else (simpleEscape? c).map fun e => { s with mode := .text (.char e :: seen) }
  | .hex seen value left =>
    (hexValue? c).map fun h =>
      if left ≤ 1 then { s with mode := .text (.escaped (16 * value + h) :: seen) }
      else { s with mode := .hex seen (16 * value + h) (left - 1) }

def run : Scan → List Char → Option Scan
  | s, [] => some s
  | s, c :: cs =>
    match s.step c with
    | some s => s.run cs
    | none => none

def finish (s : Scan) : Option (List Token) :=
  match s.mode with
  | .between => some s.tokens.reverse
  | .word seen => (s.finishWord seen).map fun s => s.tokens.reverse
  | _ => none

end Scan

def scan (cs : List Char) : Option (List Token) := (Scan.start.run cs).bind Scan.finish

end PolicyBridge.Json
