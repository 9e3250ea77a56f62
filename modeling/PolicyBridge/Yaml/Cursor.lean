namespace PolicyBridge.Yaml

def isBlank (c : Char) : Bool := c = ' ' || c = '\t'

def isBreak (c : Char) : Bool :=
  c = '\n' || c = '\r' || c = '\x85' || c = '\u2028' || c = '\u2029'

def endsWord : Option Char → Bool
  | none => true
  | some c => isBlank c || isBreak c

def endsLine : Option Char → Bool
  | none => true
  | some c => isBreak c

def isNameChar (c : Char) : Bool := c.isAlphanum || c = '_' || c = '-'

def isAllowed (c : Char) : Bool :=
  c = '\t' || c = '\n' || c = '\r' || (0x20 ≤ c.toNat && c.toNat ≤ 0x7e) || c.toNat = 0x85 ||
    (0xa0 ≤ c.toNat && c.toNat ≤ 0xfffd) || 0x10000 ≤ c.toNat

structure Cursor where
  rest : List Char
  index : Nat
  line : Nat
  column : Nat

abbrev Scan (α : Type) := StateT Cursor Option α

namespace Cursor

def start (text : List Char) : Cursor := ⟨text, 0, 0, 0⟩

def head? (k : Cursor) : Option Char := k.rest.head?

def skip (k : Cursor) (count : Nat) : Cursor :=
  { k with rest := k.rest.drop count, index := k.index + count, column := k.column + count }

def skipWhile (k : Cursor) (p : Char → Bool) : Cursor := k.skip (k.rest.takeWhile p).length

def newLine (k : Cursor) (count : Nat) : Cursor :=
  ⟨k.rest.drop count, k.index + count, k.line + 1, 0⟩

def takeBreak (k : Cursor) : List Char × Cursor :=
  match k.rest with
  | '\r' :: '\n' :: _ => (['\n'], k.newLine 2)
  | c :: _ =>
    if c = '\u2028' ∨ c = '\u2029' then ([c], k.newLine 1)
    else if isBreak c then (['\n'], k.newLine 1)
    else ([], k)
  | [] => ([], k)

def startsWith (k : Cursor) (c : Char) : Bool := k.rest.head? = some c

def isWord (k : Cursor) (c : Char) : Bool := k.startsWith c && endsWord k.rest[1]?

def isMarker (k : Cursor) (c : Char) : Bool :=
  k.column = 0 && k.rest.take 3 = [c, c, c] && endsWord k.rest[3]?

def atMarker (k : Cursor) : Bool := k.isMarker '-' || k.isMarker '.'

def skipComment (k : Cursor) : Cursor :=
  if k.startsWith '#' then k.skipWhile fun c => !isBreak c else k

def skipLineEnd (k : Cursor) : Option Cursor :=
  let k := (k.skipWhile isBlank).skipComment
  if endsLine k.head? then some k.takeBreak.2 else none

end Cursor

end PolicyBridge.Yaml
