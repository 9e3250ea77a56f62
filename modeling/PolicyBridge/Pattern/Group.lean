import PolicyBridge.Pattern.Set
import PolicyBridge.Text.Alphanumeric
/-!
Whole patterns: alternatives in groups, which may have names or flags of their own. Repetitions are
those without counts: where these patterns are found, a closing brace ends them.
-/

namespace PolicyBridge.Pattern

structure OpenGroup where
  outside : Flags
  alternatives : List Nat
  /-- The depths of the parts of the last one, the last part first; flags have none. -/
  parts : List (Option Nat)

namespace OpenGroup

def begin (outside : Flags) : OpenGroup := ⟨outside, [], []⟩

def lastDepth (g : OpenGroup) : Nat := rowDepth (g.parts.map (·.getD 0))

def depth (g : OpenGroup) : Nat := rowDepth (g.lastDepth :: g.alternatives)

def add (g : OpenGroup) (depth : Option Nat) : OpenGroup := { g with parts := depth :: g.parts }

def alternate (g : OpenGroup) : OpenGroup :=
  { g with alternatives := g.lastDepth :: g.alternatives, parts := [] }

def repeated (g : OpenGroup) : Option OpenGroup :=
  match g.parts with
  | some d :: parts => some { g with parts := some (d + 1) :: parts }
  | _ => none

end OpenGroup

structure Reading where
  flags : Flags
  group : OpenGroup
  outer : List OpenGroup
  names : List (List Char)
  rest : List Char

namespace Reading

def add (r : Reading) (depth : Option Nat) (rest : List Char) : Reading :=
  { r with group := r.group.add depth, rest := rest }

def addAtom (r : Reading) (a : Atom) (rest : List Char) : Option Reading :=
  if a.isUsable r.flags then some (r.add (some 0) rest) else none

def openGroup (r : Reading) (inside : Flags) (rest : List Char) : Reading :=
  { r with flags := inside, group := .begin r.flags, outer := r.group :: r.outer, rest := rest }

def closeGroup (r : Reading) (rest : List Char) : Option Reading :=
  match r.outer with
  | [] => none
  | o :: outer =>
    some { r with
      flags := r.group.outside, group := o.add (some (r.group.depth + 1)), outer := outer,
      rest := rest }

end Reading

def readFlags (seen : List Char) : List Char → Option (List Char × Char × List Char)
  | [] => none
  | c :: cs =>
    if c = ':' ∨ c = ')' then
      if seen.getLast? = some '-' then none else some (seen, c, cs)
    else if c ∈ ['-', 'i', 'm', 's', 'U', 'u', 'R', 'x'] ∧ c ∉ seen then readFlags (seen ++ [c]) cs
    else none

def changed (letters : List Char) (c : Char) (old : Bool) : Bool :=
  if c ∈ letters.takeWhile (· ≠ '-') then true else if c ∈ letters then false else old

def Flags.change (f : Flags) (letters : List Char) : Flags :=
  ⟨changed letters 'i' f.caseless, changed letters 'u' f.unicode, changed letters 'x' f.spaced⟩

def isName : List Char → Bool
  | [] => false
  | c :: cs =>
    (c = '_' || Text.isAlphabetic c) &&
      cs.all fun c => c ∈ ['_', '.', '[', ']'] || Text.isAlphanumeric c

def openNamed (r : Reading) (cs : List Char) : Option Reading :=
  let name := cs.takeWhile (· ≠ '>')
  match cs.dropWhile (· ≠ '>') with
  | _ :: rest =>
    if isName name && name ∉ r.names then
      some ({ r with names := name :: r.names }.openGroup r.flags rest)
    else none
  | [] => none

/-- What a question mark after an opening parenthesis begins: a name, or flags for a group or for
the rest of the one that is open. Nothing is looked ahead for or behind. -/
def openSpecial (r : Reading) : List Char → Option Reading
  | '=' :: _ => none
  | '!' :: _ => none
  | '<' :: '=' :: _ => none
  | '<' :: '!' :: _ => none
  | '<' :: cs => openNamed r cs
  | 'P' :: '<' :: cs => openNamed r cs
  | cs => do
    let (letters, c, rest) ← readFlags [] cs
    let inside := r.flags.change letters
    if c = ':' then return r.openGroup inside rest
    else if letters.isEmpty then none
    else return { r with flags := inside }.add none rest

def openAny (r : Reading) (cs : List Char) : Option Reading :=
  match r.flags.skip cs with
  | '?' :: cs => openSpecial r cs
  | cs => some (r.openGroup r.flags cs)

def readRepetition (r : Reading) (cs : List Char) : Option Reading := do
  let group ← r.group.repeated
  return { r with group := group, rest := if cs.head? = some '?' then cs.drop 1 else cs }

def readPart (r : Reading) (c : Char) (cs : List Char) : Option Reading :=
  match c with
  | '(' => openAny r cs
  | ')' => r.closeGroup cs
  | '|' => some { r with group := r.group.alternate, rest := cs }
  | '[' => (readSet r.flags cs).map fun (depth, rest) => r.add (some depth) rest
  | '?' => readRepetition r cs
  | '*' => readRepetition r cs
  | '+' => readRepetition r cs
  | '\x7b' => none
  | '\\' => do
    let (a, cs) ← readEscape r.flags cs
    r.addAtom a cs
  | '.' => if r.flags.unicode then some (r.add (some 0) cs) else none
  | '^' => r.addAtom .edge cs
  | '$' => r.addAtom .edge cs
  | c => r.addAtom (.char c false) cs

def readAll : Nat → Reading → Option Reading
  | 0, _ => none
  | n + 1, r =>
    match r.flags.skip r.rest with
    | [] => some r
    | c :: cs => do readAll n (← readPart r c cs)

def isReadable (cs : List Char) : Bool :=
  match readAll (cs.length + 1) ⟨.standard, .begin .standard, [], [], cs⟩ with
  | some r => r.outer.isEmpty && r.group.depth ≤ maxDepth
  | none => false

end PolicyBridge.Pattern
