import PolicyBridge.Engine.Fault
/-!
A policy engine as a C library offers it: engines, queries and strings behind pointers, texts that
end at their first NUL, and one pending error per thread.
-/

namespace PolicyBridge

structure CText where
  text : String
  noNul : '\x00' ∉ text.toList

namespace CText

def nulPosition (s : String) : Nat :=
  (String.ofList (s.toList.takeWhile (· ≠ '\x00'))).utf8ByteSize

def ofString (s : String) : Except Fault CText :=
  if h : '\x00' ∈ s.toList then .error (.interiorNul (nulPosition s)) else .ok ⟨s, h⟩

def ofJson (j : Json) : Except Fault CText := ofString j.write

end CText

abbrev Pointer := Nat

class Library (L : Type) where
  newEngine : StateM L (Option Pointer)
  freeEngine : Pointer → StateM L Unit
  load : Pointer → CText → StateM L Bool
  clearRules : Pointer → StateM L Bool
  registerConstant : Pointer → CText → CText → StateM L Bool
  externalId : Pointer → StateM L UInt64
  newQueryFromTerm : Pointer → CText → StateM L (Option Pointer)
  newQuery : Pointer → CText → StateM L (Option Pointer)
  bind : Pointer → CText → CText → StateM L Bool
  nextQueryEvent : Pointer → StateM L (Option Pointer)
  callResult : Pointer → UInt64 → CText → StateM L Bool
  applicationError : Pointer → CText → StateM L Bool
  freeQuery : Pointer → StateM L Bool
  /-- Takes the pending error, as a string that the caller has to free. -/
  getError : StateM L (Option Pointer)
  readString : Pointer → StateM L (List UInt8)
  freeString : Pointer → StateM L Unit

end PolicyBridge
