import PolicyBridge.Json.Token
import PolicyBridge.Yaml.Cursor

namespace PolicyBridge.Yaml

inductive Style where
  | plain
  | quoted
  | literal
  | folded
deriving DecidableEq

structure Gap where
  blanks : List Char
  breaks : List Char
  broken : Bool

namespace Gap

def none : Gap := ⟨[], [], false⟩

def text (g : Gap) : List Char :=
  if g.broken then
    match g.breaks with
    | ['\n'] => [' ']
    | '\n' :: more => more
    | breaks => breaks
  else g.blanks

def addBlank (g : Gap) (c : Char) : Gap :=
  if g.broken then g else { g with blanks := g.blanks ++ [c] }

def addBreak (g : Gap) (b : List Char) : Gap := ⟨[], g.breaks ++ b, true⟩

def take (least : Nat) : Nat → Gap → Cursor → Option (Gap × Cursor)
  | 0, g, k => some (g, k)
  | n + 1, g, k =>
    match k.head? with
    | some c =>
      if isBlank c then
        if g.broken ∧ c = '\t' ∧ k.column < least then Option.none
        else take least n (g.addBlank c) (k.skip 1)
      else if isBreak c then
        let (b, k) := k.takeBreak
        take least n (g.addBreak b) k
      else some (g, k)
    | Option.none => some (g, k)

end Gap

def isFlowMark (c : Char) : Bool := c = ',' || c = '[' || c = ']' || c = '{' || c = '}'

def touchesMark (c : Char) (next : Option Char) : Bool :=
  c = ':' && next.any fun n => isFlowMark n || n = '?'

def plainWord (flow : Bool) : List Char → Option (List Char)
  | [] => some []
  | c :: r =>
    if isBlank c || isBreak c then some []
    else if flow && touchesMark c r.head? then none
    else if (c = ':' && endsWord r.head?) || (flow && isFlowMark c) then some []
    else (plainWord flow r).map (c :: ·)

/-- The words of a plain scalar, joined; and whether a line break follows the last one. -/
def plainFrom (flow : Bool) (least : Nat) : Nat → List Char → Gap → Cursor →
    Option ((List Char × Bool) × Cursor)
  | 0, _, _, _ => none
  | n + 1, text, g, k =>
    if k.atMarker || k.startsWith '#' then some ((text, g.broken), k)
    else
      match plainWord flow k.rest with
      | none => none
      | some [] => some ((text, g.broken), k)
      | some (c :: word) =>
        let text := text ++ g.text ++ c :: word
        let k := k.skip (word.length + 1)
        match Gap.take least k.rest.length .none k with
        | none => none
        | some (g, k) =>
          if !flow && k.column < least then some ((text, g.broken), k)
          else plainFrom flow least n text g k

def plain (flow : Bool) (least : Nat) : Scan (List Char × Bool) := fun k =>
  plainFrom flow least (k.rest.length + 1) [] .none k

def simpleEscape? : Char → Option Char
  | '0' => some '\x00'
  | 'a' => some '\x07'
  | 'b' => some '\x08'
  | 't' => some '\t'
  | '\t' => some '\t'
  | 'n' => some '\n'
  | 'v' => some '\x0b'
  | 'f' => some '\x0c'
  | 'r' => some '\r'
  | 'e' => some '\x1b'
  | ' ' => some ' '
  | '"' => some '"'
  | '/' => some '/'
  | '\\' => some '\\'
  | 'N' => some '\x85'
  | '_' => some '\xa0'
  | 'L' => some '\u2028'
  | 'P' => some '\u2029'
  | _ => none

def codeLength? : Char → Option Nat
  | 'x' => some 2
  | 'u' => some 4
  | 'U' => some 8
  | _ => none

def ofCode? (code : Nat) : Option Char :=
  if (0xd800 ≤ code ∧ code ≤ 0xdfff) ∨ 0x10ffff < code then none else some (Char.ofNat code)

def hexCode? (digits : List Char) : Option Nat :=
  digits.foldlM (fun n c => (Json.hexValue? c).map (16 * n + ·)) 0

def escape? : List Char → Option (Char × Nat)
  | [] => none
  | c :: r =>
    match simpleEscape? c, codeLength? c with
    | some e, _ => some (e, 2)
    | none, some n =>
      if (r.take n).length = n then (hexCode? (r.take n)).bind ofCode? |>.map (·, n + 2) else none
    | none, none => none

def quotedFrom (quote : Char) : Nat → List Char → Cursor → Option (List Char × Cursor)
  | 0, _, _ => none
  | n + 1, seen, k =>
    if k.atMarker then none
    else
      match k.rest with
      | [] => none
      | c :: r =>
        if c = quote then
          if quote = '\'' ∧ r.head? = some '\'' then quotedFrom quote n ('\'' :: seen) (k.skip 2)
          else some (seen, k.skip 1)
        else if quote = '"' ∧ c = '\\' then
          if r.head?.any isBreak then
            match Gap.take 0 r.length ⟨[], [], true⟩ (k.skip 1).takeBreak.2 with
            | none => none
            | some (g, k) => quotedFrom quote n (g.breaks.reverse ++ seen) k
          else
            match escape? r with
            | none => none
            | some (e, count) => quotedFrom quote n (e :: seen) (k.skip count)
        else if isBlank c || isBreak c then
          match Gap.take 0 k.rest.length .none k with
          | none => none
          | some (g, k) => quotedFrom quote n (g.text.reverse ++ seen) k
        else quotedFrom quote n (c :: seen) (k.skip 1)

def quotedScalar (quote : Char) : Scan (List Char) := fun k =>
  (quotedFrom quote (k.rest.length + 1) [] (k.skip 1)).map fun r => (r.1.reverse, r.2)

end PolicyBridge.Yaml
