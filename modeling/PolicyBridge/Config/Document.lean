import PolicyBridge.Config.Basic
import PolicyBridge.Json.Fields

namespace PolicyBridge.Config

structure Format (D : Type) where
  /-- The named fields of a record, those missing being `none`. -/
  fields? : List String → D → Option (List (Option D))
  bool? : D → Option Bool
  natural? : D → Option UInt64
  text? : D → Option String
  items? : D → Option (List D)

namespace Format

variable {D : Type}

def orStandard (standard : α) (read : D → Option α) : Option D → Option α
  | none => some standard
  | some d => read d

def cache? (f : Format D) (d : D) : Option CacheConfig := do
  match ← f.fields? ["enabled", "max_entries"] d with
  | [enabled, maxEntries] =>
    return ⟨← orStandard standard.cache.enabled f.bool? enabled,
      ← orStandard standard.cache.maxEntries f.natural? maxEntries⟩
  | _ => none

def telemetry? (f : Format D) (d : D) : Option TelemetryConfig := do
  match ← f.fields? ["enabled", "service_name"] d with
  | [enabled, serviceName] =>
    return ⟨← orStandard standard.telemetry.enabled f.bool? enabled,
      ← orStandard standard.telemetry.serviceName f.text? serviceName⟩
  | _ => none

def logging? (f : Format D) (d : D) : Option LoggingConfig := do
  match ← f.fields? ["level", "json"] d with
  | [level, json] =>
    return ⟨← orStandard standard.logging.level f.text? level,
      ← orStandard standard.logging.json f.bool? json⟩
  | _ => none

def files? (f : Format D) (d : D) : Option (List String) := do
  (← f.items? d).mapM f.text?

def policy? (f : Format D) (d : D) : Option PolicyConfig := do
  match ← f.fields? ["files", "require_polar_extension"] d with
  | [files, require] =>
    return ⟨← orStandard standard.policy.files f.files? files,
      ← orStandard standard.policy.requirePolarExtension f.bool? require⟩
  | _ => none

def config? (f : Format D) (d : D) : Option Config := do
  match ← f.fields? ["cache", "telemetry", "logging", "policy"] d with
  | [cache, telemetry, logging, policy] =>
    return ⟨← orStandard standard.cache f.cache? cache,
      ← orStandard standard.telemetry f.telemetry? telemetry,
      ← orStandard standard.logging f.logging? logging,
      ← orStandard standard.policy f.policy? policy⟩
  | _ => none

end Format

def jsonFormat : Format Json where
  fields? := Json.fields?
  bool? := Json.bool?
  natural? := Json.uint64?
  text? := Json.string?
  items? := Json.items? some

def invalidJson : Error :=
  .config "invalid JSON configuration: the text does not describe settings" none

def ofJsonText (s : String) : Except Error Config :=
  match (Json.read? s).bind jsonFormat.config? with
  | some c => .ok c
  | none => .error invalidJson

end PolicyBridge.Config
