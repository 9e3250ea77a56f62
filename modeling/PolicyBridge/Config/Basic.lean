import PolicyBridge.Error
import PolicyBridge.Json.Basic
import PolicyBridge.Text.Parts

namespace PolicyBridge

structure CacheConfig where
  enabled : Bool
  maxEntries : UInt64
deriving DecidableEq

structure TelemetryConfig where
  enabled : Bool
  serviceName : String
deriving DecidableEq

structure LoggingConfig where
  level : String
  json : Bool
deriving DecidableEq

structure PolicyConfig where
  files : List String
  requirePolarExtension : Bool
deriving DecidableEq

structure Config where
  cache : CacheConfig
  telemetry : TelemetryConfig
  logging : LoggingConfig
  policy : PolicyConfig
deriving DecidableEq

namespace Config

def standard : Config where
  cache := ⟨true, 1024⟩
  telemetry := ⟨true, "polar-host"⟩
  logging := ⟨"info", false⟩
  policy := ⟨[], true⟩

def emptyCache : Error :=
  .config "cache size must be positive when the cache is enabled" (some "cache.max_entries")

def emptyServiceName : Error :=
  .config "service name must not be empty" (some "telemetry.service_name")

def emptyLevel : Error := .config "log level must not be empty" (some "logging.level")

def validate (c : Config) : Except Error Unit :=
  if c.cache.enabled ∧ c.cache.maxEntries = 0 then .error emptyCache
  else if Text.allBlank c.telemetry.serviceName then .error emptyServiceName
  else if Text.allBlank c.logging.level then .error emptyLevel
  else .ok ()

def json (c : Config) : Json := .record
  [("cache", .record [("enabled", .bool c.cache.enabled),
      ("max_entries", .nat c.cache.maxEntries.toNat)]),
    ("telemetry", .record [("enabled", .bool c.telemetry.enabled),
      ("service_name", .text c.telemetry.serviceName)]),
    ("logging", .record [("level", .text c.logging.level), ("json", .bool c.logging.json)]),
    ("policy", .record [("files", .array (c.policy.files.map .text)),
      ("require_polar_extension", .bool c.policy.requirePolarExtension)])]

end Config

end PolicyBridge
