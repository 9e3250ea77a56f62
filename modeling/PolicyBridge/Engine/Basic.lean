import PolicyBridge.Engine.Fault
import PolicyBridge.Event.Basic
import PolicyBridge.Registry
/-!
What the host side needs of a policy engine. A query is a handle into the engine; everything that
running it changes is the engine's state, save that a freed handle is spent.
-/

namespace PolicyBridge

structure Source where
  text : String
  filename : Option String
deriving DecidableEq

abbrev EngineCall (E α : Type) := ExceptT Fault (StateM E) α

class Engine (E : Type) (Q : outParam Type) extends IdSource E where
  load : List Source → EngineCall E Unit
  clearRules : EngineCall E Unit
  registerConstant : String → Term → EngineCall E Unit
  newQuery : Term → Bindings → EngineCall E Q
  newQueryOfText : String → Bindings → EngineCall E Q
  nextEvent : Q → EngineCall E Event
  answerCall : Q → UInt64 → Option Term → EngineCall E Unit
  answerApplicationError : Q → String → EngineCall E Unit
  free : Q → StateM E Q
  shutDown : StateM E Unit

end PolicyBridge
