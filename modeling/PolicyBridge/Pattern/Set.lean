import PolicyBridge.Pattern.Basic

namespace PolicyBridge.Pattern

structure OpenSet where
  negated : Bool
  beginning : Bool
  left : Option Nat
  members : List Nat

namespace OpenSet

def begin (negated : Bool) : OpenSet := ⟨negated, true, none, []⟩

def add (s : OpenSet) (depth : Nat) : OpenSet :=
  { s with beginning := false, members := depth :: s.members }

/-- The depth of all that has been read, as the operators nest to the left. -/
def depth (s : OpenSet) : Nat :=
  match s.left with
  | none => rowDepth s.members
  | some d => max d (rowDepth s.members) + 1

def operate (s : OpenSet) : OpenSet :=
  { s with beginning := false, left := some s.depth, members := [] }

end OpenSet

def classNames : List String :=
  ["alnum", "alpha", "ascii", "blank", "cntrl", "digit", "graph", "lower", "print", "punct",
   "space", "upper", "word", "xdigit"]

def readClass? (cs : List Char) : Option (Bool × List Char) :=
  match cs with
  | ':' :: cs =>
    let negated := cs.head? = some '^'
    let cs := if negated then cs.drop 1 else cs
    match cs.dropWhile (· ≠ ':') with
    | ':' :: ']' :: rest =>
      if String.ofList (cs.takeWhile (· ≠ ':')) ∈ classNames then some (negated, rest) else none
    | _ => none
  | _ => none

def isUsableClass (f : Flags) (negated : Bool) : Bool :=
  if f.unicode then !f.caseless else !negated

def readMember (f : Flags) : List Char → Option (Atom × List Char)
  | [] => none
  | '\\' :: cs => readEscape f cs
  | c :: cs => some (.char c false, cs)

def rangeEnd? (f : Flags) (cs : List Char) : Option (List Char) :=
  match f.skip cs with
  | '-' :: cs =>
    let cs := f.skip cs
    if cs.head? = some ']' ∨ cs.head? = some '-' then none else some cs
  | _ => none

def isRange : Atom → Atom → Bool
  | .char a _, .char b _ => a ≤ b
  | _, _ => false

def readRange (f : Flags) (cs : List Char) : Option (List Char) := do
  let (a, cs) ← readMember f cs
  if !a.isMember f then none
  match rangeEnd? f cs with
  | none => some cs
  | some cs =>
    let (b, cs) ← readMember f cs
    if isRange a b && b.isMember f then some cs else none

abbrev SetReading := OpenSet × List OpenSet × List Char

def beginSet (f : Flags) (outer : List OpenSet) (cs : List Char) : Option SetReading :=
  let cs := f.skip cs
  let negated := cs.head? = some '^'
  if negated && !f.unicode then none
  else some (.begin negated, outer, if negated then cs.drop 1 else cs)

inductive SetStep where
  | more (r : SetReading)
  | complete (depth : Nat) (rest : List Char)

def endSet (s : OpenSet) (outer : List OpenSet) (cs : List Char) : SetStep :=
  match outer with
  | [] => .complete (s.depth + 1) cs
  | o :: outer => .more (o.add (s.depth + 1), outer, cs)

def stepSet (f : Flags) (s : OpenSet) (outer : List OpenSet) (cs : List Char) : Option SetStep :=
  match f.skip cs with
  | [] => none
  | '-' :: cs =>
    if s.beginning then
      if Atom.isMember f (.char '-' false) then
        some (.more ({ s with members := 0 :: s.members }, outer, cs))
      else none
    else if cs.head? = some '-' then some (.more (s.operate, outer, cs.drop 1))
    else (readRange f ('-' :: cs)).map fun cs => .more (s.add 0, outer, cs)
  | ']' :: cs =>
    if s.beginning && s.members.isEmpty then
      if Atom.isMember f (.char ']' false) then some (.more (s.add 0, outer, cs)) else none
    else some (endSet s outer cs)
  | '&' :: '&' :: cs => some (.more (s.operate, outer, cs))
  | '~' :: '~' :: cs => some (.more (s.operate, outer, cs))
  | '[' :: cs =>
    match readClass? cs with
    | some (negated, cs) =>
      if isUsableClass f negated then some (.more (s.add 0, outer, cs)) else none
    | none => (beginSet f ({ s with beginning := false } :: outer) cs).map .more
  | cs => (readRange f cs).map fun cs => .more (s.add 0, outer, cs)

def readParts (f : Flags) : Nat → SetReading → Option (Nat × List Char)
  | 0, _ => none
  | n + 1, (s, outer, cs) => do
    match ← stepSet f s outer cs with
    | .more r => readParts f n r
    | .complete depth rest => some (depth, rest)

def readSet (f : Flags) (cs : List Char) : Option (Nat × List Char) := do
  readParts f (cs.length + 1) (← beginSet f [] cs)

end PolicyBridge.Pattern
