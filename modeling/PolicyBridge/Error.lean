namespace PolicyBridge

inductive Error where
  | load (message : String) (filename : Option String)
  | marshal (message : String) (kind : Option String)
  | application (message : String) (className member : Option String)
  | protocol (message : String)
  | resource (message : String) (instanceId : Option UInt64)
  | config (message : String) (key : Option String)
deriving DecidableEq

namespace Error

def category : Error → String
  | .load .. => "load"
  | .marshal .. => "marshal"
  | .application .. => "application"
  | .protocol .. => "protocol"
  | .resource .. => "resource"
  | .config .. => "config"

def message : Error → String
  | .load m _ => m
  | .marshal m _ => m
  | .application m _ _ => m
  | .protocol m => m
  | .resource m _ => m
  | .config m _ => m

def display : Error → String
  | .load m _ => "Load error: " ++ m
  | .marshal m _ => "Marshal error: " ++ m
  | .application m _ _ => "Application error: " ++ m
  | .protocol m => "Protocol error: " ++ m
  | .resource m _ => "Resource error: " ++ m
  | .config m _ => "Configuration error: " ++ m

def isQueryFatal : Error → Bool
  | .protocol _ => true
  | .resource .. => true
  | .application .. => true
  | _ => false

def withMember (className member : String) : Error → Error
  | .application m _ _ => .application m (some className) (some member)
  | e => e

def withFilename (filename : String) : Error → Error
  | .load m _ => .load m (some filename)
  | e => e

def raised (message : String) : Error := .application message none none

def malformed (details : String) : Error :=
  .protocol ("malformed payload at the engine boundary: " ++ details)

end Error

end PolicyBridge
