import Mathlib.Tactic
import PolicyBridge.Proofs.Session.Binding
import PolicyBridge.Proofs.Session.Owing

namespace PolicyBridge

open Passage

inductive Question (Obj : Type) where
  | rule (name : String) (args : List (HostValue Obj))
  | text (text : String)

namespace Question

open HostValue

variable {E Q Obj : Type}

def leaves (bindings : List (String × HostValue Obj)) : Question Obj → List (HostValue Obj)
  | rule _ args => leavesOfItems args ++ leavesOfFields bindings
  | text _ => leavesOfFields bindings

def ask [Engine E Q] (bindings : List (String × HostValue Obj)) :
    Question Obj → InSession E Obj (Query Q Obj)
  | rule name args => Session.evaluate name args bindings
  | text t => Session.evaluateText t bindings

end Question

namespace Session

open Desk HostValue
open NativeEngine (Owes)

variable {L Obj α : Type}

def passed (s : Session (NativeEngine (Watched L)) Obj) : List Passage :=
  s.shared.host.source.library.passed

/-- What a failure leaves: every query of the library that was begun has been freed. -/
structure Untouched (s s' : Session (NativeEngine (Watched L)) Obj) : Prop extends Unmoved s s' where
  byName : s'.registry.byName = s.registry.byName
  byType : s'.registry.byType = s.registry.byType
  telemetry : s'.shared.telemetry = s.shared.telemetry
  freed : ∃ xs, s'.passed = s.passed ++ xs ∧ ∀ p, outAfter p xs = some 0

structure Launches (q : Query NativeQuery Obj) (s s' : Session (NativeEngine (Watched L)) Obj) :
    Prop where
  frees : s.registry.Frees q.own.allocated
  gains : s.registry.Gains q.own.allocated s'.registry
  constants : s'.constants = s.constants
  telemetry : s'.shared.telemetry = s.shared.telemetry.map Telemetry.recordStarted
  begun : ∃ p xs, q.handle = ⟨some p⟩ ∧ s'.passed = s.passed ++ xs ∧
    ∀ p', outAfter p' xs = some (if p' = p then 1 else 0)

section Starting

variable [Library L] {s : Session (NativeEngine (Watched L)) Obj}
  {d : Desk (NativeEngine (Watched L)) Obj} {e : NativeEngine (Watched L)} {n : Nat}
  {vs : List (HostValue Obj)}

def since (s : Session (NativeEngine (Watched L)) Obj) : Since :=
  ⟨s.shared.host.source.pointer, s.passed, 0⟩

lemma untouched_of_released (ht : Takes n s.desk d) (hn : n ≤ vs.countP isNew)
    (hf : s.desk.Fresh vs) (ho : Owes s.since 0 e) :
    s.Untouched (((s.withDesk d).withSource e).releasing d.allocated) := by
  obtain ⟨entries, he⟩ := Marshal.releaseAll_eq d.registry d.allocated
  have hr : (((s.withDesk d).withSource e).releasing d.allocated).registry =
      { d.registry with entries } := he
  obtain ⟨-, xs, hx, hp⟩ := ho
  refine ⟨unmoved_of_released ht hn hf e, ?_, ?_, rfl, xs, hx, hp.stages⟩
  · rw [hr]
    exact ht.gains.byName
  · rw [hr]
    exact ht.gains.byType

lemma launches_of_accepted (ht : Takes n s.desk d) (hn : n ≤ vs.countP isNew)
    (hf : s.desk.Fresh vs) {p : Pointer} (ho : Owes s.since ((NativeQuery.mk (some p)).out + 0) e) :
    s.Launches (Query.begin ⟨some p⟩ ⟨d.allocated, []⟩) ((s.withDesk d).withSource e).begun := by
  have ha : d.allocated = IdSource.upcoming n s.shared.host.source := ht.allocated
  obtain ⟨-, xs, hx, hp⟩ := ho
  refine ⟨?_, ?_, rfl, rfl, p, xs, rfl, hx, fun p' => ?_⟩
  · change s.registry.Frees d.allocated
    rw [ha]
    exact Takes.frees hn hf
  · change s.registry.Gains d.allocated d.registry
    rw [ha]
    exact ht.gains
  · have hs := hp.stages p'
    rwa [add_zero, NativeQuery.out, Option.elim_some, Multiset.count_singleton] at hs

inductive AllOrNothing (s : Session (NativeEngine (Watched L)) Obj) :
    Except Error (Query NativeQuery Obj) × Session (NativeEngine (Watched L)) Obj → Prop
  | launched {q : Query NativeQuery Obj} {s' : Session (NativeEngine (Watched L)) Obj} :
      s.Launches q s' → AllOrNothing s (.ok q, s')
  | failed {x : Error} {s' : Session (NativeEngine (Watched L)) Obj} :
      s.Untouched s' → AllOrNothing s (.error x, s')

lemma starting_allOrNothing {m : Marshaling (NativeEngine (Watched L)) Obj α} {f : Fault → Error}
    {c : α → EngineCall (NativeEngine (Watched L)) NativeQuery}
    (ht : Takes n s.desk (m s.desk).2) (hn : n ≤ vs.countP isNew) (hf : s.desk.Fresh vs)
    (hc : ∀ a, NativeEngine.Starts (c a)) : AllOrNothing s (starting m f c s) := by
  have ho : Owes s.since 0 (m s.desk).2.source :=
    keepsOwed_stepClosed.of_takes ht _ 0 (NativeEngine.Owes.refl s.shared.host.source 0)
  rcases hd : m s.desk with ⟨x | a, d⟩ <;> rw [hd] at ht ho
  · rw [starting_of_unmarshalable hd]
    exact .failed (untouched_of_released ht hn hf ho)
  · have hb := hc a s.since 0 d.source ho
    generalize hq : c a d.source = x at hb
    cases hb with
    | failed he =>
      rw [starting_of_refused hd hq]
      exact .failed (untouched_of_released ht hn hf he)
    | begun he =>
      rw [starting_of_accepted hd hq]
      exact .launched (launches_of_accepted ht hn hf he)

/-- If the ids that its values get are new to the session, a query is started with the objects
among them registered, or the session is as it was and the library has back every query it began. -/
theorem ask_allOrNothing (s : Session (NativeEngine (Watched L)) Obj) (x : Question Obj)
    (bindings : List (String × HostValue Obj)) (hf : s.desk.Fresh (x.leaves bindings)) :
    AllOrNothing s (x.ask bindings s) := by
  cases x with
  | rule name args =>
    obtain ⟨n, hn, ht⟩ := marshaled_takes args bindings s.desk
    rw [Question.ask, evaluate_eq]
    exact starting_allOrNothing ht hn hf fun _ => NativeEngine.newQuery_starts _ _
  | text t =>
    obtain ⟨n, hn, ht⟩ := Marshal.toBindings_takes bindings s.desk
    rw [Question.ask, evaluateText_eq]
    exact starting_allOrNothing ht hn hf (NativeEngine.newQueryOfText_starts t)

end Starting

section Sample

def visited : Session (NativeEngine (Watched Script.Library)) Unit :=
  (registerInstance Marshal.ada (new ⟨⟨Script.Library.empty none, []⟩, 0⟩ .standard)).2

def guests : List (String × HostValue Unit) := [("x", .object Marshal.bob)]

def idsOf (x : Except Error (Query NativeQuery Unit)) : Option (List UInt64) :=
  x.toOption.map fun q => q.own.allocated

theorem ask_allOrNothing_guests :
    visited.desk.Fresh ((Question.text "f(x)").leaves guests) ∧
      ∃ q s', (Question.text "f(x)").ask guests visited = (.ok q, s') ∧
        q.own.allocated = [2] ∧ visited.Launches q s' := by
  have hf : visited.desk.Fresh ((Question.text "f(x)").leaves guests) :=
    Marshal.frees_of_all (by decide) (by decide)
  have h := ask_allOrNothing visited (.text "f(x)") guests hf
  have hi : idsOf ((Question.text "f(x)").ask guests visited).1 = some [2] := by decide +kernel
  generalize (Question.text "f(x)").ask guests visited = x at h hi ⊢
  obtain ⟨e | q, s'⟩ := x
  · cases hi
  · obtain ⟨hq⟩ := h
    exact ⟨hf, q, s', rfl, Option.some.inj hi, hq⟩

end Sample

end Session

end PolicyBridge
