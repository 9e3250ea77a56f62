import PolicyBridge.Yaml.Scalar

namespace PolicyBridge.Yaml

inductive Chomping where
  | strip
  | clip
  | keep
deriving DecidableEq

structure BlockHeader where
  chomping : Chomping
  increment : Option Nat

namespace BlockHeader

def chomping? : Char → Option Chomping
  | '+' => some .keep
  | '-' => some .strip
  | _ => none

def takeChomping (k : Cursor) : Option Chomping × Cursor :=
  match k.head?.bind chomping? with
  | some c => (some c, k.skip 1)
  | none => (none, k)

def takeIncrement (k : Cursor) : Option (Option Nat × Cursor) :=
  match k.head? with
  | some c =>
    if c = '0' then none
    else if c.isDigit then some (some (c.toNat - '0'.toNat), k.skip 1)
    else some (none, k)
  | none => some (none, k)

def take (k : Cursor) : Option (BlockHeader × Cursor) := do
  let (first, k) := takeChomping k
  let (increment, k) ← takeIncrement k
  let (second, k) :=
    if first.isNone && increment.isSome then takeChomping k else (none, k)
  some (⟨(first.or second).getD .clip, increment⟩, ← k.skipLineEnd)

end BlockHeader

def blockBreaks (indent : Option Nat) : Nat → List Char → Nat → Cursor →
    Option (List Char × Nat × Cursor)
  | 0, breaks, widest, k => some (breaks, widest, k)
  | n + 1, breaks, widest, k =>
    let spaces := (k.rest.takeWhile (· = ' ')).length
    let k := k.skip (match indent with
      | none => spaces
      | some i => min spaces (i - k.column))
    let widest := max widest k.column
    if k.startsWith '\t' ∧ indent.all (k.column < ·) then none
    else if k.head?.any isBreak then
      let (b, k) := k.takeBreak
      blockBreaks indent n (breaks ++ b) widest k
    else some (breaks, widest, k)

/-- How two lines are joined: a single break between lines without leading blanks is folded. -/
def joinLines (literal : Bool) (first breaks : List Char) (blankBefore blankAfter : Bool) :
    List Char :=
  if !literal && first.head? = some '\n' && !blankBefore && !blankAfter then
    if breaks.isEmpty then [' '] else breaks
  else first ++ breaks

structure BlockLines where
  text : List Char
  first : List Char
  breaks : List Char
  blankBefore : Bool

def blockLines (literal : Bool) (indent : Nat) : Nat → BlockLines → Cursor →
    Option (BlockLines × Cursor)
  | 0, _, _ => none
  | n + 1, b, k =>
    if k.column = indent ∧ ¬ k.rest.isEmpty then
      let blank := k.head?.any isBlank
      let text := b.text ++ joinLines literal b.first b.breaks b.blankBefore blank
      let line := k.rest.takeWhile fun c => !isBreak c
      let (first, k) := (k.skip line.length).takeBreak
      match blockBreaks (some indent) (k.rest.length + 1) [] 0 k with
      | none => none
      | some (breaks, _, k) => blockLines literal indent n ⟨text ++ line, first, breaks, blank⟩ k
    else some (b, k)

def BlockLines.chomped (b : BlockLines) : Chomping → List Char
  | .strip => b.text
  | .clip => b.text ++ b.first
  | .keep => b.text ++ b.first ++ b.breaks

def blockScalar (literal : Bool) (least : Nat) : Scan (List Char) := fun k => do
  let (header, k) ← BlockHeader.take (k.skip 1)
  let written := header.increment.map fun i => (least - 1) + i
  let (breaks, widest, k) ← blockBreaks written (k.rest.length + 1) [] 0 k
  let indent := written.getD (max widest (max least 1))
  let (b, k) ← blockLines literal indent (k.rest.length + 1) ⟨[], [], breaks, false⟩ k
  some (b.chomped header.chomping, k)

end PolicyBridge.Yaml
