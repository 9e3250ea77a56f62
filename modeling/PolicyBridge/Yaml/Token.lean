import PolicyBridge.Yaml.Block
import PolicyBridge.Yaml.Name
/-!
The tokens of a text. A colon may turn what stands before it into a key, so the place of such a
candidate is kept until it is clear: a key lies on one line, within 1024 characters.
-/

namespace PolicyBridge.Yaml

inductive Token where
  | directive (d : Directive)
  | documentStart
  | documentEnd
  | blockSequence
  | blockMapping
  | blockEnd
  | openSequence
  | closeSequence
  | openMapping
  | closeMapping
  | blockEntry
  | flowEntry
  | key
  | value
  | alias (name : List Char)
  | anchor (name : List Char)
  | tag (t : Tag)
  | scalar (style : Style) (text : List Char)
deriving DecidableEq

structure KeyCandidate where
  tokensBefore : Nat
  index : Nat
  line : Nat
  column : Nat
  required : Bool

structure Lexer where
  cursor : Cursor
  tokens : List Token
  indents : List Nat
  candidate : Option KeyCandidate
  outer : List (Option KeyCandidate)
  keyAllowed : Bool

abbrev Lexing := StateT Lexer Option

namespace Lexer

def start (text : List Char) : Lexer := ⟨.start text, [], [], none, [], true⟩

def inFlow (s : Lexer) : Bool := !s.outer.isEmpty

def leastColumn (s : Lexer) : Nat :=
  match s.indents with
  | [] => 0
  | i :: _ => i + 1

def push (t : Token) : Lexing Unit := modify fun s => { s with tokens := t :: s.tokens }

def insertAfter (count : Nat) (t : Token) : Lexing Unit := modify fun s =>
  let later := s.tokens.length - count
  { s with tokens := s.tokens.take later ++ t :: s.tokens.drop later }

def skip (count : Nat) : Lexing Unit := modify fun s => { s with cursor := s.cursor.skip count }

def onCursor (m : Scan α) : Lexing α := fun s =>
  (m s.cursor).map fun r => (r.1, { s with cursor := r.2 })

def allowKey (b : Bool) : Lexing Unit := modify fun s => { s with keyAllowed := b }

def openBlock (column : Nat) (opening : Lexing Unit) : Lexing Unit := do
  let s ← get
  if !s.inFlow ∧ s.leastColumn ≤ column then
    opening
    modify fun s => { s with indents := column :: s.indents }

def closeBlocks : List Nat → Nat → List Token → List Nat × List Token
  | [], _, ts => ([], ts)
  | i :: is, least, ts =>
    if least ≤ i then closeBlocks is least (.blockEnd :: ts) else (i :: is, ts)

def closeFrom (least : Nat) : Lexing Unit := modify fun s =>
  if s.inFlow then s
  else
    let (indents, tokens) := closeBlocks s.indents least s.tokens
    { s with indents := indents, tokens := tokens }

def dropCandidate : Lexing Unit := do
  let s ← get
  if s.candidate.any (·.required) then failure
  set { s with candidate := none }

def candidateHere (s : Lexer) : KeyCandidate where
  tokensBefore := s.tokens.length
  index := s.cursor.index
  line := s.cursor.line
  column := s.cursor.column
  required := !s.inFlow && s.indents.head? = some s.cursor.column

def saveCandidate : Lexing Unit := do
  if (← get).keyAllowed then
    dropCandidate
    modify fun s => { s with candidate := some s.candidateHere }

def isStale (k : Cursor) (c : KeyCandidate) : Bool :=
  c.line < k.line || c.index + 1024 < k.index

/-- A candidate out of reach is none any more; one that is required then is an error. -/
def refresh (k : Cursor) : Option KeyCandidate → Option (Option KeyCandidate)
  | none => some none
  | some c =>
    if isStale k c then if c.required then none else some none
    else some (some c)

def dropStale : Lexing Unit := do
  let s ← get
  let candidate ← refresh s.cursor s.candidate
  let outer : List (Option KeyCandidate) ← (s.outer.mapM (refresh s.cursor) : Option _)
  set { s with candidate := candidate, outer := outer }

/-- Passes blanks, comments and line breaks. In a block, tabs count as blanks only where no key
may begin; a new line lets one begin. -/
def toToken : Nat → Lexer → Lexer
  | 0, s => s
  | n + 1, s =>
    let k := if s.cursor.column = 0 ∧ s.cursor.startsWith '\ufeff' then s.cursor.skip 1 else s.cursor
    let tabs := s.inFlow || !s.keyAllowed
    let k := (k.skipWhile fun c => c = ' ' || (tabs && c = '\t')).skipComment
    if k.head?.any isBreak then
      toToken n { s with cursor := k.takeBreak.2, keyAllowed := s.keyAllowed || !s.inFlow }
    else { s with cursor := k }

def skipToToken : Lexing Unit := modify fun s => toToken (s.cursor.rest.length + 1) s

def node (m : Scan Token) : Lexing Unit := do
  saveCandidate
  allowKey false
  push (← onCursor m)

def directive : Lexing Unit := do
  closeFrom 0
  dropCandidate
  allowKey false
  push (.directive (← onCursor Directive.scan))

def marker (t : Token) : Lexing Unit := do
  closeFrom 0
  dropCandidate
  allowKey false
  skip 3
  push t

def openFlow (t : Token) : Lexing Unit := do
  saveCandidate
  modify fun s => { s with outer := s.candidate :: s.outer, candidate := none }
  allowKey true
  skip 1
  push t

def closeFlow (t : Token) : Lexing Unit := do
  dropCandidate
  modify fun s =>
    match s.outer with
    | [] => s
    | c :: outer => { s with candidate := c, outer := outer }
  allowKey false
  skip 1
  push t

def flowEntry : Lexing Unit := do
  dropCandidate
  allowKey true
  skip 1
  push .flowEntry

def beginBlock (t : Token) : Lexing Unit := do
  let s ← get
  unless s.inFlow do
    unless s.keyAllowed do failure
    openBlock s.cursor.column (push t)

def blockEntry : Lexing Unit := do
  beginBlock .blockSequence
  dropCandidate
  allowKey true
  skip 1
  push .blockEntry

def key : Lexing Unit := do
  beginBlock .blockMapping
  dropCandidate
  allowKey (!(← get).inFlow)
  skip 1
  push .key

def value : Lexing Unit := do
  match (← get).candidate with
  | some c =>
    insertAfter c.tokensBefore .key
    openBlock c.column (insertAfter c.tokensBefore .blockMapping)
    modify fun s => { s with candidate := none }
    allowKey false
  | none =>
    beginBlock .blockMapping
    allowKey (!(← get).inFlow)
  skip 1
  push .value

def blockScalar (style : Style) : Lexing Unit := do
  dropCandidate
  allowKey true
  let least := (← get).leastColumn
  push (.scalar style (← onCursor (Yaml.blockScalar (style = .literal) least)))

def plainScalar : Lexing Unit := do
  saveCandidate
  allowKey false
  let s ← get
  let (text, broken) ← onCursor (plain s.inFlow s.leastColumn)
  if broken then allowKey true
  push (.scalar .plain text)

def isIndicator (c : Char) : Bool :=
  c ∈ ['-', '?', ':', ',', '[', ']', '{', '}', '#', '&', '*', '!', '|', '>', '\'', '"', '%', '@',
    '\x60']

def beginsPlain (s : Lexer) (c : Char) (next : Option Char) : Bool :=
  !(endsWord (some c) || isIndicator c) || (c = '-' && !next.any isBlank) ||
    (!s.inFlow && (c = '?' || c = ':') && !endsWord next)

def token (s : Lexer) (c : Char) : Lexing Unit :=
  let k := s.cursor
  let next := k.rest[1]?
  let mark (m : Char) := c = m && (s.inFlow || endsWord next)
  if k.column = 0 ∧ c = '%' then directive
  else if k.isMarker '-' then marker .documentStart
  else if k.isMarker '.' then marker .documentEnd
  else if c = '[' then openFlow .openSequence
  else if c = '{' then openFlow .openMapping
  else if c = ']' then closeFlow .closeSequence
  else if c = '}' then closeFlow .closeMapping
  else if c = ',' then flowEntry
  else if k.isWord '-' then blockEntry
  else if mark '?' then key
  else if mark ':' then value
  else if c = '*' then node (.alias <$> anchorName)
  else if c = '&' then node (.anchor <$> anchorName)
  else if c = '!' then node (.tag <$> Tag.scan s.inFlow)
  else if c = '|' ∧ !s.inFlow then blockScalar .literal
  else if c = '>' ∧ !s.inFlow then blockScalar .folded
  else if c = '\'' ∨ c = '"' then node (.scalar .quoted <$> quotedScalar c)
  else if s.beginsPlain c next then plainScalar
  else failure

def next : Lexing Bool := do
  skipToToken
  dropStale
  let s ← get
  closeFrom s.cursor.column.succ
  match s.cursor.head? with
  | none =>
    closeFrom 0
    dropCandidate
    return false
  | some c =>
    token (← get) c
    return true

/-- As every step passes a character or is the last one, so many steps are enough. -/
def run : Nat → Lexer → Option Lexer
  | 0, _ => none
  | n + 1, s =>
    match next s with
    | none => none
    | some (true, s) => run n s
    | some (false, s) => some s

end Lexer

def Token.ofText? (s : String) : Option (List Token) :=
  let text := s.toList
  if text.all isAllowed then
    (Lexer.run (text.length + 1) (.start text)).map fun s => s.tokens.reverse
  else none

end PolicyBridge.Yaml
