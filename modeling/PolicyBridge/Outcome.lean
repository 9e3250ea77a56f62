import PolicyBridge.Error
/-!
What may come of running host code, and how each outcome is reported: what host code raises and
what it panics with become application errors that name the member it ran as.
-/

namespace PolicyBridge

inductive Outcome (α : Type) where
  | value (a : α)
  /-- Host code returned an error with this text. -/
  | raised (message : String)
  /-- Host code gave back an error of this library. -/
  | failed (e : Error)
  | panicked (message : Option String)

namespace Outcome

def panicText : Option String → String
  | some m => m
  | none => "host code panicked"

def ofExcept : Except Error α → Outcome α
  | .ok a => .value a
  | .error e => .failed e

def map (f : α → β) : Outcome α → Outcome β
  | .value a => .value (f a)
  | .raised m => .raised m
  | .failed e => .failed e
  | .panicked m => .panicked m

def result : Outcome α → Except Error α
  | .value a => .ok a
  | .raised m => .error (.raised m)
  | .failed e => .error e
  | .panicked m => .error (.raised (panicText m))

def guarded (className member : String) (o : Outcome α) : Except Error α :=
  match o.result with
  | .ok a => .ok a
  | .error e => .error (e.withMember className member)

end Outcome

end PolicyBridge
