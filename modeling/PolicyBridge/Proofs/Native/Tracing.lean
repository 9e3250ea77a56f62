import Mathlib.Tactic
import PolicyBridge.Proofs.Failing
import PolicyBridge.Proofs.Native.Sending

namespace PolicyBridge

inductive NativeCall where
  | polled (p : Pointer)
  | answered (p : Pointer) (callId : UInt64) (value : String)
  | reported (p : Pointer) (message : String)
deriving DecidableEq

structure Traced (L : Type) where
  inner : L
  calls : List NativeCall

namespace Traced

variable {L α : Type}

def quietly (m : StateM L α) : StateM (Traced L) α := fun t =>
  ((m t.inner).1, ⟨(m t.inner).2, t.calls⟩)

def noting (c : NativeCall) (m : StateM L α) : StateM (Traced L) α := fun t =>
  ((m t.inner).1, ⟨(m t.inner).2, t.calls ++ [c]⟩)

instance [Library L] : Library (Traced L) where
  newEngine := quietly Library.newEngine
  freeEngine p := quietly (Library.freeEngine p)
  load p sources := quietly (Library.load p sources)
  clearRules p := quietly (Library.clearRules p)
  registerConstant p name value := quietly (Library.registerConstant p name value)
  externalId p := quietly (Library.externalId p)
  newQueryFromTerm p query := quietly (Library.newQueryFromTerm p query)
  newQuery p query := quietly (Library.newQuery p query)
  bind p name value := quietly (Library.bind p name value)
  nextQueryEvent p := noting (.polled p) (Library.nextQueryEvent p)
  callResult p callId value :=
    noting (.answered p callId value.text) (Library.callResult p callId value)
  applicationError p message :=
    noting (.reported p message.text) (Library.applicationError p message)
  freeQuery p := quietly (Library.freeQuery p)
  getError := quietly Library.getError
  readString p := quietly (Library.readString p)
  freeString p := quietly (Library.freeString p)

end Traced

structure Library.Obliging (L : Type) [Library L] : Prop where
  callResult : ∀ p callId value (l : L), (Library.callResult p callId value l).1 = true
  applicationError : ∀ p message (l : L), (Library.applicationError p message l).1 = true

def Adds {σ α : Type} (trace : σ → List NativeCall) (cs : List NativeCall)
    (m : StateM σ α) : Prop :=
  ∀ s, trace (m s).2 = trace s ++ cs

namespace Adds

variable {σ α β : Type} {trace : σ → List NativeCall} {cs : List NativeCall}

lemma pure (a : α) : Adds trace [] (pure a) := fun s => (List.append_nil (trace s)).symm

lemma bind {m : StateM σ α} {f : α → StateM σ β} (hm : Adds trace cs m)
    (hf : ∀ a, Adds trace [] (f a)) : Adds trace cs (m >>= f) := by
  intro s
  have h := hf (m s).1 (m s).2
  rw [List.append_nil, hm s] at h
  exact h

lemma attempt {ε : Type} {m : ExceptT ε (StateM σ) α} {f : α → ExceptT ε (StateM σ) β}
    (hm : Adds trace cs m) (hf : ∀ a, Adds trace [] (f a)) :
    Adds trace cs (m >>= f : ExceptT ε (StateM σ) β) := by
  refine bind (f := ExceptT.bindCont f) hm fun a => ?_
  cases a with
  | error e => exact pure _
  | ok a => exact hf a

end Adds

namespace NativeEngine

variable {L α : Type}

def calls (e : NativeEngine (Traced L)) : List NativeCall := e.library.calls

lemma quietly_adds (m : StateM L α) : Adds Traced.calls [] (Traced.quietly m) :=
  fun t => (List.append_nil t.calls).symm

lemma onLibrary_adds {m : StateM (Traced L) α} {cs : List NativeCall} (h : Adds Traced.calls cs m) :
    Adds calls cs (onLibrary m) :=
  fun e => h e.library

lemma run_adds {m : Pointer → StateM (Traced L) α} {cs : List NativeCall}
    (h : ∀ p, Adds Traced.calls cs (m p)) : Adds calls cs (run m) :=
  fun e => h e.pointer e.library

variable [Library L]

lemma takeString_adds (p : Pointer) :
    Adds Traced.calls [] (takeString p : StateM (Traced L) String) :=
  fun t => (List.append_nil t.calls).symm

lemma lastFault_adds : Adds Traced.calls [] (lastFault : StateM (Traced L) Fault) := by
  refine Adds.bind (quietly_adds _) fun p => ?_
  cases p with
  | none => exact Adds.pure _
  | some p => exact Adds.bind (takeString_adds p) fun _ => Adds.pure _

lemma failLast_adds : Adds calls [] (failLast : EngineCall (NativeEngine (Traced L)) α) := by
  have h := onLibrary_adds (lastFault_adds (L := L))
  exact fun e => h e

lemma free_adds (q : NativeQuery) :
    Adds calls [] (freeQuery q : StateM (NativeEngine (Traced L)) NativeQuery) := by
  obtain ⟨_ | p⟩ := q
  · exact Adds.pure _
  · refine Adds.bind (onLibrary_adds (quietly_adds _)) fun freed => ?_
    cases freed with
    | true => exact Adds.bind (Adds.pure _) fun _ => Adds.pure _
    | false => exact Adds.bind (onLibrary_adds lastFault_adds) fun _ => Adds.pure _

lemma nextEvent_adds (p : Pointer) :
    Adds calls [.polled p] (nextEvent ⟨some p⟩ : EngineCall (NativeEngine (Traced L)) Event) := by
  have hp : Adds Traced.calls [.polled p] (Library.nextQueryEvent p : StateM (Traced L) _) :=
    fun _ => rfl
  have hl : (live ⟨some p⟩ : EngineCall (NativeEngine (Traced L)) Pointer) = pure p := rfl
  rw [nextEvent, hl, pure_bind]
  refine Adds.attempt (run_adds fun _ => hp) fun s => ?_
  cases s with
  | none => exact failLast_adds
  | some s =>
    refine Adds.attempt (run_adds fun _ => takeString_adds s) fun text => ?_
    unfold decodeEvent
    cases Event.ofText? text with
    | none => exact Adds.pure _
    | some e => exact Adds.pure _

def resultText (result : Option Term) : String := (optionalTermJson result).write

variable (hL : Library.Obliging L)

include hL

lemma answerCall_eq (p : Pointer) (callId : UInt64) (result : Option Term)
    (e : NativeEngine (Traced L)) :
    (Engine.answerCall ⟨some p⟩ callId result : EngineCall _ Unit) e = (.ok (), { e with library :=
      ⟨(Library.callResult p callId ⟨resultText result, Json.nul_not_mem_write _⟩
        e.library.inner).2, e.calls ++ [.answered p callId (resultText result)]⟩ }) := by
  let value := CText.document (optionalTermJson result)
  have hc : check (fun _ => Library.callResult p callId value) e = _ :=
    check_of_true (hL.callResult p callId value e.library.inner)
  rw [answerCall_sends]
  exact hc

lemma report_of_noNul (p : Pointer) {message : String} (h : '\x00' ∉ message.toList)
    (e : NativeEngine (Traced L)) :
    ((Engine.answerApplicationError ⟨some p⟩ message : EngineCall _ Unit) e).2.calls =
      e.calls ++ [.reported p message] := by
  rw [(complaint_screens p message).eq_send h,
    check_of_true (hL.applicationError p _ e.library.inner)]
  rfl

omit hL in
lemma report_of_nul (p : Pointer) {message : String} (h : '\x00' ∈ message.toList)
    (e : NativeEngine (Traced L)) :
    ((Engine.answerApplicationError ⟨some p⟩ message : EngineCall _ Unit) e).2 = e := by
  rw [(complaint_screens p message).eq_throw h]
  rfl

end NativeEngine

end PolicyBridge
