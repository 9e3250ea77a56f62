import Mathlib.Tactic
import PolicyBridge.Engine.Basic

namespace PolicyBridge

structure Tape where
  counter : Counter
  events : List Event

namespace Tape

def play : EngineCall Tape Event := fun t =>
  match t.events with
  | [] => (.ok (.done true), t)
  | e :: es => (.ok e, { t with events := es })

instance : Engine Tape Unit where
  next t := ((IdSource.next t.counter).1, { t with counter := (IdSource.next t.counter).2 })
  load _ := pure ()
  clearRules := pure ()
  registerConstant _ _ := pure ()
  newQuery _ _ := pure ()
  newQueryOfText _ _ := pure ()
  nextEvent _ := play
  answerCall _ _ _ := pure ()
  answerApplicationError _ _ := pure ()
  free _ := pure ()
  shutDown := pure ()

end Tape

end PolicyBridge
