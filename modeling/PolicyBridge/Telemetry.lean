namespace PolicyBridge

inductive QueryOutcome where
  | completed
  | errored
  | abandoned
deriving DecidableEq

structure Telemetry where
  serviceName : String
  started : UInt64
  completed : UInt64
  errored : UInt64
  abandoned : UInt64
  results : UInt64
  externalCalls : UInt64
  applicationErrors : UInt64
  microseconds : UInt64
deriving DecidableEq

namespace Telemetry

def named (serviceName : String) : Telemetry := ⟨serviceName, 0, 0, 0, 0, 0, 0, 0, 0⟩

def recordStarted (t : Telemetry) : Telemetry := { t with started := t.started + 1 }

def recordResult (t : Telemetry) : Telemetry := { t with results := t.results + 1 }

def recordExternalCall (t : Telemetry) : Telemetry :=
  { t with externalCalls := t.externalCalls + 1 }

def recordApplicationError (t : Telemetry) : Telemetry :=
  { t with applicationErrors := t.applicationErrors + 1 }

def wholePart (x : Float) : UInt64 := x.toUInt64

def recordFinished (t : Telemetry) (outcome : QueryOutcome) (milliseconds : Float) : Telemetry :=
  let t := { t with microseconds := t.microseconds + wholePart (milliseconds * 1000) }
  match outcome with
  | .completed => { t with completed := t.completed + 1 }
  | .errored => { t with errored := t.errored + 1 }
  | .abandoned => { t with abandoned := t.abandoned + 1 }

def finished (t : Telemetry) : UInt64 := t.completed + t.errored + t.abandoned

def averageMilliseconds (t : Telemetry) : Float :=
  if t.finished = 0 then 0 else t.microseconds.toFloat / t.finished.toFloat / 1000

end Telemetry

end PolicyBridge
