import Mathlib.Tactic
import PolicyBridge.Query

/-! A record of what one query exchanges with its engine. Recording leaves the engine as it is, and
what others do with the engine is not recorded. -/

namespace PolicyBridge

inductive Exchange where
  | drew (id : UInt64)
  | polled (answer : Except Fault Event)
  | answered (callId : UInt64) (result : Option Term) (outcome : Except Fault Unit)
  | reported (message : String) (outcome : Except Fault Unit)
  | freed

structure Recorded (S : Type) where
  inner : S
  record : List Exchange

namespace Recorded

variable {S E Q α : Type}

def noting (x : α → Exchange) (m : StateM S α) : StateM (Recorded S) α := fun s =>
  ((m s.inner).1, ⟨(m s.inner).2, s.record ++ [x (m s.inner).1]⟩)

def quietly (m : StateM S α) : StateM (Recorded S) α := fun s =>
  ((m s.inner).1, ⟨(m s.inner).2, s.record⟩)

instance [IdSource S] : IdSource (Recorded S) := ⟨noting .drew IdSource.next⟩

instance [Engine E Q] : Engine (Recorded E) Q where
  load sources := quietly (Engine.load sources)
  clearRules := quietly (Engine.clearRules : EngineCall E Unit)
  registerConstant name t := quietly (Engine.registerConstant name t)
  newQuery t bindings := quietly (Engine.newQuery t bindings : EngineCall E Q)
  newQueryOfText text bindings := quietly (Engine.newQueryOfText text bindings : EngineCall E Q)
  nextEvent q := noting .polled (Engine.nextEvent q)
  answerCall q callId result := noting (.answered callId result) (Engine.answerCall q callId result)
  answerApplicationError q message :=
    noting (.reported message) (Engine.answerApplicationError q message)
  free q := noting (fun _ => .freed) (Engine.free q)
  shutDown := quietly (Engine.shutDown : StateM E Unit)

end Recorded

end PolicyBridge
