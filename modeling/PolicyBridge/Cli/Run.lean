import PolicyBridge.Cli.Binding
import PolicyBridge.Cli.Help
import PolicyBridge.Cli.LogFilter
import PolicyBridge.Config.File
import PolicyBridge.Session.Builder

namespace PolicyBridge.Cli

inductive NoObject where
  | standIn

instance : ClassObject NoObject := ⟨.standIn, Class.unitType⟩

structure Outcome where
  code : UInt32
  stdout : String
  error : Option String
deriving DecidableEq

def Outcome.failed (stdout message : String) : Outcome := ⟨1, stdout, some ("Error: " ++ message)⟩

def Outcome.crashed : Outcome := ⟨101, "", none⟩

open Config (Environment)

def Arguments.override (a : Arguments) (c : Config) : Config :=
  { c with
    logging := ⟨a.logLevel.getD c.logging.level, a.jsonLogs || c.logging.json⟩
    cache := { c.cache with enabled := !a.noCache && c.cache.enabled } }

def Arguments.settings (fs : Files) (env : Environment) (a : Arguments) : Except Error Config := do
  let c ← match a.config with
    | some path => Config.ofFile fs path
    | none => Config.ofEnvironment env
  let c := a.override c
  c.validate
  return c

def checkLogging (env : Environment) (c : Config) : Except LogFilter.Fault Unit :=
  match (env.lookup "RUST_LOG").map LogFilter.check with
  | none => LogFilter.check c.logging.level
  | some (.error .invalid) => LogFilter.check c.logging.level
  | some r => r

def Arguments.canCollect (env : Environment) (a : Arguments) : Bool :=
  a.config.isSome || (Config.settingsOf? env).isSome

def hasRoom (c : Config) : Bool :=
  !c.cache.enabled || Cache.isAddressable c.cache.maxEntries.toNat

/-- How the solutions came to an end; `pending` when the polls allowed are used up. -/
inductive Ending where
  | complete
  | failed (e : Error)
  | pending

structure Report where
  lines : List String
  ending : Ending

variable {E Q Obj : Type}

def solutions [Engine E Q] (polls : Nat) : Nat → Running E Q Obj Report
  | 0 => return ⟨[], .complete⟩
  | n + 1 => do
    match ← Query.next polls with
    | .item (.ok r) =>
      let rest ← solutions polls n
      return ⟨r.json.write :: rest.lines, rest.ending⟩
    | .item (.error e) => return ⟨[], .failed e⟩
    | .finished => return ⟨[], .complete⟩
    | .pending => return ⟨[], .pending⟩

def linesText (lines : List String) : String := String.join (lines.map (· ++ "\n"))

def Report.count (r : Report) : Int32 := Int32.ofNat r.lines.length

def Report.outcome (r : Report) : Outcome :=
  match r.ending with
  | .failed e => .failed (linesText r.lines) e.display
  | .complete => ⟨0, linesText (if r.count = 0 then r.lines ++ ["false"] else r.lines), none⟩
  | .pending => .crashed

abbrev Part (E Obj α : Type) := ExceptT String (StateM (Session E Obj)) α

def displaying (m : InSession E Obj α) : Part E Obj α := fun s =>
  match m s with
  | (.ok a, s) => (.ok a, s)
  | (.error e, s) => (.error e.display, s)

def noLimit : Nat := UInt64.size - 1

def Arguments.maximum (a : Arguments) : Nat :=
  match a.limit with
  | some n => n.toNat
  | none => noLimit

def Arguments.report [Engine E Q] (fs : Files) (polls : Nat) (a : Arguments) : Part E Obj Report := do
  unless a.policyFiles.isEmpty do displaying (Session.loadFiles fs a.policyFiles)
  let bindings ← ExceptT.mk (pure (readBindings a.bindings))
  let q ← displaying (Session.evaluateText a.query bindings)
  let (r, q) ← displaying (Session.onQuery q (solutions polls a.maximum))
  let _ ← displaying (Session.onQuery q Query.drop)
  return r

variable {L : Type} [Library L]

def runWith (fs : Files) (polls : Nat) (a : Arguments) (c : Config) : StateM L Outcome := fun l =>
  let plan : SessionPlan NoObject := { SessionPlan.standard with config := c }
  match plan.build fs l with
  | .error (_, l) => (.failed "" "failed to start the policy engine", l)
  | .ok s =>
    let (r, s) := a.report fs polls s
    let outcome := match r with
      | .ok r => r.outcome
      | .error m => .failed "" m
    (outcome, s.shutDown.shared.host.source.library)

def runArguments (fs : Files) (env : Environment) (polls : Nat) (a : Arguments) :
    StateM L Outcome :=
  if a.canCollect env then
    match a.settings fs env with
    | .error e => return .failed "" e.display
    | .ok c =>
      match checkLogging env c with
      | .error .invalid => return .failed "" "invalid log level"
      | .error .split => return .crashed
      | .ok () => if hasRoom c then runWith fs polls a c else return .crashed
  else return .crashed

def run (fs : Files) (env : Environment) (polls : Nat) (args : List String) : StateM L Outcome :=
  match Arguments.read env args with
  | .error .usage => return ⟨2, "", none⟩
  | .error .help => return ⟨0, helpText env, none⟩
  | .error .version => return ⟨0, versionText, none⟩
  | .ok a => runArguments fs env polls a

end PolicyBridge.Cli
