import PolicyBridge.Native.Library
import PolicyBridge.Script.Query
/-!
A policy library that plays scripts. It hands out strings, queries and engines by pointer, keeps
count of those alive, and writes down the calls made to it.
-/

namespace PolicyBridge.Script

inductive Call where
  | load (filenames : List (Option String))
  | clear
  | constant (name text : String)
  | query (text : String)
  | queryText (text : String)
  | bind (name text : String)
  | result (callId : UInt64) (text : String)
  | applicationError (message : String)
  | free

structure Engine where
  rules : Dict String Rule
  constants : Dict String Json
  constantErrors : Dict String Payload
  clearError : Option Payload
  upcoming : UInt64

structure Library where
  newError : Option Payload
  error : Payload
  strings : Dict Pointer (List UInt8)
  queries : Dict Pointer Query
  engines : Dict Pointer Engine
  fresh : Pointer
  calls : List Call

namespace Library

def empty (newError : Option Payload) : Library := ⟨newError, none, [], [], [], 1, []⟩

def engine (l : Library) (p : Pointer) : Engine := (l.engines.find? p).getD ⟨[], [], [], none, 1⟩

def query (l : Library) (p : Pointer) : Query := (l.queries.find? p).getD (.start .empty [] [])

def note (c : Call) (l : Library) : Library := { l with calls := c :: l.calls }

def setEngine (p : Pointer) (e : Engine) (l : Library) : Library :=
  { l with engines := l.engines.insert p e }

def setQuery (p : Pointer) (q : Query) (l : Library) : Library :=
  { l with queries := l.queries.insert p q }

def failWith (p : Payload) (l : Library) : Bool × Library := (false, { l with error := p })

def failIf (p : Option Payload) (ok : Library → Library) (l : Library) : Bool × Library :=
  match p with
  | some p => l.failWith p
  | none => (true, ok l)

def newString (bytes : List UInt8) (l : Library) : Pointer × Library :=
  (l.fresh, { l with strings := l.strings.insert l.fresh bytes, fresh := l.fresh + 1 })

def parseError (filename : Option String) : String :=
  (Json.record [("formatted", .text ("cannot parse " ++ filename.getD "policy")),
    ("kind", .variant "Parse" (.record []))]).write

def sourceOf (j : Json) : String × Option String :=
  (((j.get? "src").bind Json.string?).getD "", (j.get? "filename").bind Json.string?)

def sourcesOf (text : String) : List (String × Option String) :=
  match Json.readAny? text with
  | some (.array items) => items.map sourceOf
  | _ => []

def checkSource (s : String × Option String) : Except Payload Policy :=
  match Policy.ofText? s.1 with
  | none => .error (some (parseError s.2))
  | some p =>
    match p.loadError with
    | some e => .error e
    | none => .ok p

def mergeInto (d new : Dict String α) : Dict String α := new.foldl (fun d e => d.insert e.1 e.2) d

def Engine.apply (e : Engine) (p : Policy) : Engine :=
  { e with
    rules := mergeInto e.rules p.rules
    constantErrors := mergeInto e.constantErrors p.constantErrors
    clearError := p.clearError.or e.clearError
    upcoming := p.nextId.getD e.upcoming }

def load (p : Pointer) (text : String) (l : Library) : Bool × Library :=
  let sources := sourcesOf text
  let l := l.note (.load (sources.map Prod.snd))
  match sources.mapM checkSource with
  | .error e => l.failWith e
  | .ok policies => (true, l.setEngine p (policies.foldl Engine.apply (l.engine p)))

def clearRules (p : Pointer) (l : Library) : Bool × Library :=
  let e := l.engine p
  (l.note .clear).failIf e.clearError (setEngine p { e with rules := [] })

def termOf (text : String) : Json := (Json.readAny? text).getD .null

def registerConstant (p : Pointer) (name text : String) (l : Library) : Bool × Library :=
  let e := l.engine p
  (l.note (.constant name text)).failIf (e.constantErrors.find? name)
    (setEngine p { e with constants := e.constants.insert name (termOf text) })

def calledBy (j : Json) : String × List Json :=
  match (j.get? "value").bind (Json.get? "Call") with
  | some c =>
    let args := match c.get? "args" with
      | some (.array as) => as
      | _ => []
    (((c.get? "name").bind Json.string?).getD "", args)
  | none => ("", [])

def startQuery (p : Pointer) (name : String) (args : List Json) (l : Library) :
    Option Pointer × Library :=
  let e := l.engine p
  let rule := (e.rules.find? name).getD .empty
  match rule.newError with
  | some payload => (none, (l.failWith payload).2)
  | none =>
    (some l.fresh, { l with
      queries := l.queries.insert l.fresh (.start rule args e.constants)
      fresh := l.fresh + 1 })

def newQueryFromTerm (p : Pointer) (text : String) (l : Library) : Option Pointer × Library :=
  let (name, args) := calledBy (termOf text)
  (l.note (.query text)).startQuery p name args

def newQuery (p : Pointer) (text : String) (l : Library) : Option Pointer × Library :=
  (l.note (.queryText text)).startQuery p text []

def bind (p : Pointer) (name text : String) (l : Library) : Bool × Library :=
  let q := l.query p
  (l.note (.bind name text)).failIf (q.rule.bindErrors.find? name)
    (setQuery p { q with bound := q.bound.insert name (termOf text) })

def nextQueryEvent (p : Pointer) (l : Library) : Option Pointer × Library :=
  match (l.query p).poll with
  | (.text bytes, q) =>
    let (s, l) := (l.setQuery p q).newString bytes
    (some s, l)
  | (.failure payload, q) => (none, ((l.setQuery p q).failWith payload).2)

def answer (p : Pointer) (r : Reply) (l : Library) : Bool × Library :=
  let q := l.query p
  match q.refusal with
  | some payload => (l.setQuery p { q with refusal := none }).failWith payload
  | none => (true, l.setQuery p { q with reply := some r })

def freeQuery (p : Pointer) (l : Library) : Bool × Library :=
  let q := l.query p
  { l.note .free with queries := l.queries.erase p }.failIf q.rule.freeError id

def newEngine (l : Library) : Option Pointer × Library :=
  match l.newError with
  | some payload => (none, { (l.failWith payload).2 with newError := none })
  | none =>
    (some l.fresh, { l with
      engines := l.engines.insert l.fresh ⟨[], [], [], none, 1⟩, fresh := l.fresh + 1 })

def externalId (p : Pointer) (l : Library) : UInt64 × Library :=
  let e := l.engine p
  (e.upcoming, l.setEngine p { e with upcoming := e.upcoming + 1 })

def getError (l : Library) : Option Pointer × Library :=
  match l.error with
  | none => (none, l)
  | some text =>
    let (s, l) := { l with error := none }.newString text.toUTF8.toList
    (some s, l)

def takeCalls (l : Library) : List Call × Library := (l.calls.reverse, { l with calls := [] })

end Library

instance : PolicyBridge.Library Library where
  newEngine := Library.newEngine
  freeEngine p := fun l => ((), { l with engines := l.engines.erase p })
  load p text := Library.load p text.text
  clearRules p := Library.clearRules p
  registerConstant p name value := Library.registerConstant p name.text value.text
  externalId p := Library.externalId p
  newQueryFromTerm p text := Library.newQueryFromTerm p text.text
  newQuery p text := Library.newQuery p text.text
  bind p name value := Library.bind p name.text value.text
  nextQueryEvent p := Library.nextQueryEvent p
  callResult p callId value := fun l =>
    (l.note (.result callId value.text)).answer p (.result (Library.termOf value.text))
  applicationError p message := fun l =>
    (l.note (.applicationError message.text)).answer p (.applicationError message.text)
  freeQuery p := Library.freeQuery p
  getError := Library.getError
  readString p := fun l => ((l.strings.find? p).getD [], l)
  freeString p := fun l => ((), { l with strings := l.strings.erase p })

end PolicyBridge.Script
