import PolicyBridge.Native.Engine
import PolicyBridge.Session.Basic

namespace PolicyBridge

structure SessionPlan (Obj : Type) where
  config : Config
  classes : List (Class Obj)
  texts : List String
  files : List String
  telemetryEnabled : Option Bool
  cacheEnabled : Option Bool
  cacheSize : Option UInt64

namespace SessionPlan

variable {E Q Obj : Type}

def standard : SessionPlan Obj := ⟨.standard, [], [], [], none, none, none⟩

def settings (p : SessionPlan Obj) : Config :=
  { p.config with
    cache := ⟨p.cacheEnabled.getD p.config.cache.enabled,
      p.cacheSize.getD p.config.cache.maxEntries⟩
    telemetry := { p.config.telemetry with
      enabled := p.telemetryEnabled.getD p.config.telemetry.enabled } }

def check (p : SessionPlan Obj) : Except Error Config := do
  p.settings.validate
  return p.settings

def loadAll [Engine E Q] (fs : Files) (files : List String) : InSession E Obj Unit :=
  if files.isEmpty then pure () else Session.loadFiles fs files

def prepare [Engine E Q] [ClassObject Obj] (fs : Files) (p : SessionPlan Obj) :
    InSession E Obj Unit := do
  p.classes.forM Session.registerClass
  loadAll fs (p.settings.policy.files ++ p.files)
  p.texts.forM Session.loadText

def buildOn [Engine E Q] [ClassObject Obj] (fs : Files) (p : SessionPlan Obj) (engine : E) :
    Except (Error × E) (Session E Obj) :=
  match p.check with
  | .error e => .error (e, ((Engine.shutDown : StateM E Unit) engine).2)
  | .ok config =>
    match (p.prepare fs).run (Session.new engine config) with
    | (.ok (), s) => .ok s
    | (.error e, s) => .error (e, s.shutDown.shared.host.source)

def build {L Obj : Type} [Library L] [ClassObject Obj] (fs : Files) (p : SessionPlan Obj) (l : L) :
    Except (Error × L) (Session (NativeEngine L) Obj) :=
  match p.check with
  | .error e => .error (e, l)
  | .ok _ =>
    match NativeEngine.create l with
    | (.error f, l) => .error (f.loadError, l)
    | (.ok pointer, l) =>
      match p.buildOn fs ⟨l, pointer⟩ with
      | .ok s => .ok s
      | .error (e, engine) => .error (e, engine.library)

end SessionPlan

end PolicyBridge
