import PolicyBridge.Text.Parts
/-!
Regular expressions, as far as it matters whether they can be used: their flags, what is passed
over between their parts, and escapes. Letters, digits and the cases of letters are known for ASCII
only, and so whatever asks for them has to do without Unicode.
-/

namespace PolicyBridge.Pattern

structure Flags where
  caseless : Bool
  unicode : Bool
  spaced : Bool

def Flags.standard : Flags := ⟨false, true, false⟩

def dropSpace (inComment : Bool) : List Char → List Char
  | [] => []
  | c :: cs =>
    if inComment then dropSpace (c ≠ '\n') cs
    else if Text.isBlank c then dropSpace false cs
    else if c = '#' then dropSpace true cs
    else c :: cs

def Flags.skip (f : Flags) (cs : List Char) : List Char :=
  if f.spaced then dropSpace false cs else cs

inductive Atom where
  | char (c : Char) (asByte : Bool)
  | named (negated : Bool)
  | property
  | edge
  | wordBoundary

def Atom.isUsable (f : Flags) : Atom → Bool
  | .char c asByte => if f.unicode then !f.caseless else !asByte || c.toNat < 0x80
  | .named negated => !f.unicode && !negated
  | .property => false
  | .edge => true
  | .wordBoundary => !f.unicode

/-- Sets without Unicode are sets of bytes, of which those beyond ASCII are no characters. -/
def Atom.isMember (f : Flags) : Atom → Bool
  | .char c _ => if f.unicode then !f.caseless else c.toNat < 0x80
  | .named negated => !f.unicode && !negated
  | _ => false

def hexValue? (c : Char) : Option Nat :=
  if '0' ≤ c ∧ c ≤ '9' then some (c.toNat - '0'.toNat)
  else if 'a' ≤ c ∧ c ≤ 'f' then some (c.toNat - 'a'.toNat + 10)
  else if 'A' ≤ c ∧ c ≤ 'F' then some (c.toNat - 'A'.toNat + 10)
  else none

def readHex (f : Flags) : Nat → Nat → List Char → Option (Nat × List Char)
  | 0, value, cs => some (value, cs)
  | n + 1, value, c :: cs => do readHex f n (0x10 * value + (← hexValue? c)) (f.skip cs)
  | _ + 1, _, [] => none

def readCode (f : Flags) (digits : Nat) (cs : List Char) : Option (Atom × List Char) := do
  let (n, cs) ← readHex f digits 0 (f.skip cs)
  if n.isValidChar then some (.char (Char.ofNat n) (digits = 2), cs) else none

def controlEscape? (c : Char) : Option Char :=
  match c with
  | 'a' => some '\x07'
  | 'f' => some '\x0c'
  | 't' => some '\t'
  | 'n' => some '\n'
  | 'r' => some '\r'
  | 'v' => some '\x0b'
  | _ => none

def standsForItself (c : Char) : Bool := c.toNat < 0x80 && !c.isAlphanum && c ∉ ['<', '>', '%']

def readEscape (f : Flags) : List Char → Option (Atom × List Char)
  | [] => none
  | 'x' :: cs => readCode f 2 cs
  | 'u' :: cs => readCode f 4 cs
  | 'U' :: cs => readCode f 8 cs
  | c :: cs =>
    if standsForItself c then some (.char c false, cs)
    else if c ∈ ['d', 's', 'w'] then some (.named false, cs)
    else if c ∈ ['D', 'S', 'W'] then some (.named true, cs)
    else if c ∈ ['p', 'P'] then some (.property, cs)
    else if c ∈ ['A', 'z'] then some (.edge, cs)
    else if c ∈ ['b', 'B', '<', '>'] then some (.wordBoundary, cs)
    else (controlEscape? c).map fun c => (.char c false, cs)

def rowDepth : List Nat → Nat
  | [] => 0
  | [d] => d
  | ds => ds.foldl max 0 + 1

def maxDepth : Nat := 250

end PolicyBridge.Pattern
