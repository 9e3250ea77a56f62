import PolicyBridge.Engine.Basic
import PolicyBridge.Event.Wire
import PolicyBridge.Native.Library
import PolicyBridge.Text.Utf8
/-!
The engine over a C library. Every string of the library is read once and freed at once, and a
query is freed at most once: its handle loses the pointer then.
-/

namespace PolicyBridge

structure NativeEngine (L : Type) where
  library : L
  pointer : Pointer

structure NativeQuery where
  pointer : Option Pointer
deriving DecidableEq

namespace NativeEngine

variable {L : Type} [Library L]

def takeString (p : Pointer) : StateM L String := do
  let bytes ← Library.readString p
  Library.freeString p
  return Text.decodeLossy bytes

def lastFault : StateM L Fault := do
  match ← Library.getError with
  | some p => return .ofPayload (← takeString p)
  | none => return .missing

def onLibrary (m : StateM L α) : StateM (NativeEngine L) α := fun e =>
  let (a, l) := m e.library
  (a, { e with library := l })

def run (m : Pointer → StateM L α) : EngineCall (NativeEngine L) α := fun e =>
  let (a, l) := m e.pointer e.library
  (.ok a, { e with library := l })

def failLast : EngineCall (NativeEngine L) α := do
  throw (← (onLibrary lastFault : StateM (NativeEngine L) Fault))

def check (m : Pointer → StateM L Bool) : EngineCall (NativeEngine L) Unit := do
  unless ← run m do failLast

def encode (e : Except Fault CText) : EngineCall (NativeEngine L) CText := ExceptT.mk (pure e)

def sourcesJson (sources : List Source) : Json :=
  .array (sources.map fun s =>
    .record [("src", .text s.text), ("filename", .optional .text s.filename)])

def optionalTermJson : Option Term → Json := Json.optional Term.json

def freeQuery (q : NativeQuery) : StateM (NativeEngine L) NativeQuery := do
  match q.pointer with
  | none => return q
  | some p =>
    unless ← onLibrary (Library.freeQuery p) do
      let _ ← onLibrary (lastFault : StateM L Fault)
    return ⟨none⟩

def bindOne (p : Pointer) (b : String × Term) : EngineCall (NativeEngine L) Unit := do
  let name ← encode (CText.ofString b.1)
  let value ← encode (CText.ofJson b.2.json)
  check fun _ => Library.bind p name value

def bindAll (p : Pointer) : Bindings → EngineCall (NativeEngine L) Unit
  | [] => pure ()
  | b :: bs => do
    bindOne p b
    bindAll p bs

/-- A query whose bindings are refused is freed. -/
def startQuery (pointer : Option Pointer) (bindings : Bindings) :
    EngineCall (NativeEngine L) NativeQuery := do
  match pointer with
  | none => failLast
  | some p => fun e =>
    match bindAll p bindings e with
    | (.ok (), e) => (.ok ⟨some p⟩, e)
    | (.error f, e) =>
      let (_, e) := freeQuery ⟨some p⟩ e
      (.error f, e)

def live (q : NativeQuery) : EngineCall (NativeEngine L) Pointer :=
  match q.pointer with
  | some p => pure p
  | none => throw .freed

def decodeEvent (text : String) : EngineCall (NativeEngine L) Event :=
  match Event.ofText? text with
  | some e => pure e
  | none => throw (.malformedEvent text)

def nextEvent (q : NativeQuery) : EngineCall (NativeEngine L) Event := do
  let p ← live q
  match ← run fun _ => Library.nextQueryEvent p with
  | some s => decodeEvent (← run fun _ => takeString s)
  | none => failLast

def create (l : L) : Except Fault Pointer × L :=
  let (p, l) := (Library.newEngine : StateM L (Option Pointer)) l
  match p with
  | some p => (.ok p, l)
  | none =>
    let (f, l) := lastFault l
    (.error f, l)

instance : Engine (NativeEngine L) NativeQuery where
  next e :=
    let (id, l) := Library.externalId e.pointer e.library
    (id, { e with library := l })
  load sources := do
    let text ← encode (CText.ofJson (sourcesJson sources))
    check fun p => Library.load p text
  clearRules := check fun p => Library.clearRules p
  registerConstant name value := do
    let name ← encode (CText.ofString name)
    let value ← encode (CText.ofJson value.json)
    check fun p => Library.registerConstant p name value
  newQuery query bindings := do
    let text ← encode (CText.ofJson query.json)
    startQuery (← run fun p => Library.newQueryFromTerm p text) bindings
  newQueryOfText query bindings := do
    let text ← encode (CText.ofString query)
    startQuery (← run fun p => Library.newQuery p text) bindings
  nextEvent := nextEvent
  answerCall q callId result := do
    let p ← live q
    let value ← encode (CText.ofJson (optionalTermJson result))
    check fun _ => Library.callResult p callId value
  answerApplicationError q message := do
    let p ← live q
    let message ← encode (CText.ofString message)
    check fun _ => Library.applicationError p message
  free := freeQuery
  shutDown := fun e =>
    let ((), l) := Library.freeEngine e.pointer e.library
    ((), { e with library := l })

end NativeEngine

end PolicyBridge
