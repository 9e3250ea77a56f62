import PolicyBridge.Config.Basic
import PolicyBridge.Files
import PolicyBridge.Query
/-!
A session: an engine with its policies, the host's classes and instances, and the constants bound
for policy code. Constants keep the ids drawn for them until they are bound anew.
-/

namespace PolicyBridge

class ClassObject (Obj : Type) where
  object : Obj
  hostType : HostType

structure Session (E Obj : Type) where
  shared : Shared E Obj
  constants : Dict String (List UInt64)
  config : Config

abbrev InSession (E Obj α : Type) := ExceptT Error (StateM (Session E Obj)) α

namespace Session

variable {E Q Obj : Type}

def new (engine : E) (config : Config) : Session E Obj where
  shared :=
    { host :=
        { source := engine
          registry := Registry.empty
          cache := if config.cache.enabled then some (Cache.ofSize config.cache.maxEntries.toNat)
            else none }
      telemetry := if config.telemetry.enabled then some (Telemetry.named config.telemetry.serviceName)
        else none }
  constants := []
  config := config

def registry (s : Session E Obj) : Registry Obj := s.shared.host.registry

def withHost (s : Session E Obj) (h : Host E Obj) : Session E Obj :=
  { s with shared := { s.shared with host := h } }

def withRegistry (s : Session E Obj) (r : Registry Obj) : Session E Obj :=
  s.withHost { s.shared.host with registry := r }

def modifyRegistry (f : Registry Obj → Registry Obj) : InSession E Obj Unit :=
  modify fun s => s.withRegistry (f s.registry)

def liftExcept (e : Except Error α) : InSession E Obj α := ExceptT.mk (pure e)

def engine (ofFault : Fault → Error) (m : EngineCall E α) : InSession E Obj α := fun s =>
  let (a, e) := m s.shared.host.source
  let s := s.withHost { s.shared.host with source := e }
  match a with
  | .ok a => (.ok a, s)
  | .error f => (.error (ofFault f), s)

def load [Engine E Q] (sources : List Source) : InSession E Obj Unit :=
  engine Fault.loadError (Engine.load sources)

def loadText [Engine E Q] (text : String) : InSession E Obj Unit := load [⟨text, none⟩]

def wrongExtension (path : String) : Error :=
  .load "policy files must have the .polar extension" (some path)

def unreadable (path : String) (e : FileError) : Error :=
  .load ("cannot read policy file: " ++ e.message) (some path)

def readSource (fs : Files) (requireExtension : Bool) (path : String) : Except Error Source :=
  if requireExtension ∧ Path.extension? path ≠ some "polar" then .error (wrongExtension path)
  else
    match fs.read path with
    | .ok text => .ok ⟨text, some path⟩
    | .error e => .error (unreadable path e)

def naming (sources : List Source) (e : Error) : Error :=
  match sources with
  | [s] => e.withFilename (s.filename.getD "")
  | _ => e

def loadFiles [Engine E Q] (fs : Files) (paths : List String) : InSession E Obj Unit := do
  let require := (← get).config.policy.requirePolarExtension
  let sources ← liftExcept (paths.mapM (readSource fs require))
  engine (fun f => naming sources f.loadError) (Engine.load sources)

def clearRules [Engine E Q] : InSession E Obj Unit := engine Fault.loadError Engine.clearRules

/-- Binds a constant and, once that is done, releases what its former value held. -/
def bindConstant [Engine E Q] (name : String) (t : Term) (ids : List UInt64) :
    InSession E Obj Unit := do
  engine Fault.loadError (Engine.registerConstant name t)
  modify fun s =>
    let former := (s.constants.find? name).getD []
    { s.withRegistry (Marshal.releaseAll s.registry former) with
      constants := s.constants.insert name ids }

def nextId [IdSource E] : InSession E Obj UInt64 := fun s =>
  let (id, e) := IdSource.next s.shared.host.source
  (.ok id, s.withHost { s.shared.host with source := e })

def register [IdSource E] (i : Instance Obj) (owner : Owner) : InSession E Obj UInt64 := do
  let id ← nextId
  modifyRegistry fun r => r.register id i owner
  return id

def classTerm (id : UInt64) (name : String) : Term := .external id none (some name) (some "Class")

def buildClassObject [ClassObject Obj] : InSession E Obj (Instance Obj) := fun s =>
  let (i, r) := s.registry.build ClassObject.object (ClassObject.hostType Obj)
  (.ok i, s.withRegistry r)

def clearCache : InSession E Obj Unit := modify fun s =>
  s.withHost { s.shared.host with cache := s.shared.host.cache.map Cache.clear }

def registerClass [Engine E Q] [ClassObject Obj] (c : Class Obj) : InSession E Obj Unit := do
  modifyRegistry fun r => r.registerClass c
  clearCache
  let id ← register (← buildClassObject) .host
  bindConstant c.name (classTerm id c.name) [id]

def marshal (m : Marshaling E Obj α) : InSession E Obj (Except Error α × List UInt64) := fun s =>
  let (a, d) := m ⟨s.shared.host.source, s.registry, []⟩
  (.ok (a, d.allocated), s.withHost { s.shared.host with source := d.source, registry := d.registry })

def releaseIds (ids : List UInt64) : InSession E Obj Unit :=
  modifyRegistry fun r => Marshal.releaseAll r ids

def orRelease (ids : List UInt64) (m : InSession E Obj α) : InSession E Obj α :=
  tryCatch m fun e => do
    releaseIds ids
    throw e

def registerConstant [Engine E Q] (name : String) (v : HostValue Obj) : InSession E Obj Unit := do
  let (t, ids) ← marshal (Marshal.toTerm v)
  orRelease ids do bindConstant name (← liftExcept t) ids

def registerInstance [IdSource E] (i : Instance Obj) : InSession E Obj UInt64 := register i .host

def releaseInstance (id : UInt64) : InSession E Obj Unit := do
  let (_, r) ← liftExcept ((← get).registry.release id)
  modifyRegistry fun _ => r

def instance? (s : Session E Obj) (id : UInt64) : Except Error (Instance Obj) := s.registry.lookup id

def recordStarted : InSession E Obj Unit :=
  modify fun s => { s with shared := s.shared.record Telemetry.recordStarted }

def started (handle : Q) (ids : List UInt64) : InSession E Obj (Query Q Obj) := do
  recordStarted
  return Query.begin handle { Dispatcher.fresh with allocated := ids }

def evaluate [Engine E Q] (rule : String) (args : List (HostValue Obj))
    (bindings : List (String × HostValue Obj)) : InSession E Obj (Query Q Obj) := do
  let (marshaled, ids) ← marshal do
    let args ← Marshal.toTerms args
    return (args, ← Marshal.toBindings bindings)
  orRelease ids do
    let (args, bindings) ← liftExcept marshaled
    let handle ← engine Fault.queryError (Engine.newQuery (.call rule args none) bindings)
    started handle ids

def evaluateText [Engine E Q] (text : String) (bindings : List (String × HostValue Obj)) :
    InSession E Obj (Query Q Obj) := do
  let (marshaled, ids) ← marshal (Marshal.toBindings bindings)
  orRelease ids do
    let handle ← engine Fault.loadError (Engine.newQueryOfText text (← liftExcept marshaled))
    started handle ids

def onQuery (q : Query Q Obj) (m : Running E Q Obj α) : InSession E Obj (α × Query Q Obj) := fun s =>
  let (a, r) := m ⟨s.shared, q⟩
  (.ok (a, r.query), { s with shared := r.shared })

/-- Whether `allow` has a solution for the three values; `none` when the polls are used up. -/
def isAllowed [Engine E Q] (polls : Nat) (actor action resource : HostValue Obj) :
    InSession E Obj (Option Bool) := do
  let q ← evaluate "allow" [actor, action, resource] []
  let (p, q) ← onQuery q (Query.next polls)
  match p with
  | .item (.error e) => do
    let _ ← onQuery q Query.drop
    throw e
  | .item (.ok _) => finish q (some true)
  | .finished => finish q (some false)
  | .pending => finish q none
where
  finish (q : Query Q Obj) (b : Option Bool) : InSession E Obj (Option Bool) := do
    let _ ← onQuery q Query.close
    return b

def boolText (b : Bool) : String := if b then "true" else "false"

def display (s : Session E Obj) : String :=
  "PolicySession \x7b registry: " ++ s.registry.display ++ ", cache_enabled: " ++
    boolText s.shared.host.cache.isSome ++ ", telemetry_enabled: " ++
    boolText s.shared.telemetry.isSome ++ " \x7d"

def shutDown [Engine E Q] (s : Session E Obj) : Session E Obj :=
  s.withHost { s.shared.host with source := ((Engine.shutDown : StateM E Unit) s.shared.host.source).2 }

end Session

end PolicyBridge
