import PolicyBridge.Config.Environment
/-!
The command line. Options take one value each, attached to them or as the next argument; those
that are left out may come from environment variables. Whatever is wrong with the arguments ends
in the same way, and so it does not matter what is wrong first.
-/

namespace PolicyBridge.Cli

structure Arguments where
  query : String
  policyFiles : List String
  config : Option String
  bindings : List String
  limit : Option UInt64
  logLevel : Option String
  jsonLogs : Bool
  noCache : Bool
deriving DecidableEq

inductive Stop where
  | usage
  | help
  | version
deriving DecidableEq

inductive Opt where
  | query
  | policy
  | config
  | bind
  | limit
  | logLevel
deriving DecidableEq

inductive Flag where
  | jsonLogs
  | noCache
  | help
  | version
deriving DecidableEq

structure Given where
  query : Option String
  policyFiles : Option (List String)
  config : Option String
  bindings : List String
  limit : Option UInt64
  logLevel : Option String
  jsonLogs : Option Bool
  noCache : Bool

namespace Given

def none : Given := ⟨.none, .none, .none, [], .none, .none, .none, false⟩

def once (old : Option α) (new : Option α) : Except Stop (Option α) :=
  match old, new with
  | .none, some a => .ok (some a)
  | _, _ => .error .usage

def path? (s : String) : Option String := if s.isEmpty then .none else some s

def paths? (s : String) : Option (List String) :=
  (Text.split ',' s).mapM path?

def count? (s : String) : Option UInt64 :=
  match Decimal.natural? s.toList with
  | some n => if n < UInt64.size then some (UInt64.ofNat n) else .none
  | .none => .none

def addPaths (old : Option (List String)) (s : String) : Except Stop (Option (List String)) :=
  match paths? s with
  | some new => .ok (some (old.getD [] ++ new))
  | .none => .error .usage

def give (g : Given) (o : Opt) (value : String) : Except Stop Given :=
  match o with
  | .query => return { g with query := ← once g.query (some value) }
  | .policy => return { g with policyFiles := ← addPaths g.policyFiles value }
  | .config => return { g with config := ← once g.config (path? value) }
  | .bind => return { g with bindings := g.bindings ++ [value] }
  | .limit => return { g with limit := ← once g.limit (count? value) }
  | .logLevel => return { g with logLevel := ← once g.logLevel (some value) }

def raise (g : Given) (f : Flag) : Except Stop Given :=
  match f with
  | .jsonLogs => return { g with jsonLogs := ← once g.jsonLogs (some true) }
  | .noCache => if g.noCache then .error .usage else .ok { g with noCache := true }
  | .help => .error .help
  | .version => .error .version

end Given

def longOption? (name : String) : Option (Opt ⊕ Flag) :=
  match name with
  | "query" => some (.inl .query)
  | "policy" => some (.inl .policy)
  | "config" => some (.inl .config)
  | "bind" => some (.inl .bind)
  | "limit" => some (.inl .limit)
  | "log-level" => some (.inl .logLevel)
  | "json-logs" => some (.inr .jsonLogs)
  | "no-cache" => some (.inr .noCache)
  | "help" => some (.inr .help)
  | "version" => some (.inr .version)
  | _ => none

def shortOption? (c : Char) : Option (Opt ⊕ Flag) :=
  match c with
  | 'q' => some (.inl .query)
  | 'f' => some (.inl .policy)
  | 'c' => some (.inl .config)
  | 'b' => some (.inl .bind)
  | 'l' => some (.inl .limit)
  | 'h' => some (.inr .help)
  | 'V' => some (.inr .version)
  | _ => none

abbrev Read := Except Stop (Given × Option Opt)

def dropEquals : List Char → List Char
  | '=' :: r => r
  | r => r

def readShort (g : Given) : List Char → Read
  | [] => .ok (g, none)
  | c :: r =>
    match shortOption? c with
    | some (.inl o) =>
      if r.isEmpty then .ok (g, some o)
      else return (← g.give o (String.ofList (dropEquals r)), none)
    | some (.inr f) =>
      match g.raise f with
      | .ok g => readShort g r
      | .error s => .error s
    | none => .error .usage

def splitEquals : List Char → List Char × Option (List Char)
  | [] => ([], none)
  | '=' :: r => ([], some r)
  | c :: r => let (name, value) := splitEquals r; (c :: name, value)

def readLong (g : Given) (text : List Char) : Read :=
  let (name, value) := splitEquals text
  match longOption? (String.ofList name), value with
  | some (.inl o), some v => return (← g.give o (String.ofList v), none)
  | some (.inl o), none => .ok (g, some o)
  | some (.inr f), none => return (← g.raise f, none)
  | _, _ => .error .usage

/-- Arguments in order. An option waiting for its value takes no option for it. -/
def readAll : Given → Option Opt → List String → Except Stop Given
  | g, none, [] => .ok g
  | _, some _, [] => .error .usage
  | g, pending, a :: as =>
    match pending, a.toList with
    | none, ['-', '-'] => if as.isEmpty then .ok g else .error .usage
    | none, '-' :: '-' :: text => do
      let (g, pending) ← readLong g text
      readAll g pending as
    | none, '-' :: c :: r => do
      let (g, pending) ← readShort g (c :: r)
      readAll g pending as
    | none, _ => .error .usage
    | some _, '-' :: _ :: _ => .error .usage
    | some o, _ => do
      let g ← g.give o a
      readAll g none as

open Config (Environment)

def fallback (old : Option α) (env : Environment) (name : String) (read : String → Option α) :
    Except Stop (Option α) :=
  match old, env.lookup name with
  | some a, _ => .ok (some a)
  | none, none => .ok none
  | none, some s =>
    match read s with
    | some a => .ok (some a)
    | none => .error .usage

def truth? (s : String) : Option Bool :=
  if s = "true" then some true else if s = "false" then some false else none

def withEnvironment (g : Given) (env : Environment) : Except Stop Given :=
  return { g with
    policyFiles := ← fallback g.policyFiles env "POLAR_HOST_POLICY_FILES" Given.paths?
    config := ← fallback g.config env "CONFIG_FILE" Given.path?
    logLevel := ← fallback g.logLevel env "LOG_LEVEL" some
    jsonLogs := ← fallback g.jsonLogs env "JSON_LOGS" truth? }

def Arguments.read (env : Environment) (args : List String) : Except Stop Arguments := do
  let g ← withEnvironment (← readAll .none none args) env
  match g.query with
  | none => throw .usage
  | some query => return {
      query := query
      policyFiles := g.policyFiles.getD []
      config := g.config
      bindings := g.bindings
      limit := g.limit
      logLevel := g.logLevel
      jsonLogs := g.jsonLogs.getD false
      noCache := g.noCache }

end PolicyBridge.Cli
