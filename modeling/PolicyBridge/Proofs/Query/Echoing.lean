import Mathlib.Tactic
import PolicyBridge.Proofs.Dispatch.Viewing
import PolicyBridge.Proofs.Query.Holding
import PolicyBridge.Proofs.Query.Reference

namespace PolicyBridge

variable {E Q Obj : Type}

def View.erasing [IdSource E] : View (Recorded E) E Obj where
  source := Recorded.inner
  cache := id
  good _ _ := True
  next _ := rfl

lemma View.erasing_resolves [IdSource E] : (View.erasing : View (Recorded E) E Obj).Resolves :=
  View.along_resolves Recorded.inner fun _ => rfl

namespace Dispatching

open Failing in
lemma dispatch_yields [IdSource E] (event : Event) :
    Yields (fun a => a.map Answer.callId = event.callId?)
      (dispatch event : Dispatching E Obj (Option Answer)) := by
  cases event with
  | done _ | result _ _ => exact Yields.throw _
  | makeExternal id t | externalCall | nextExternal | externalIsSubclass =>
    exact Yields.bind fun _ => Yields.pure rfl
  | _ => exact Yields.bind fun _ => Yields.bind fun _ => Yields.pure rfl

end Dispatching

namespace Exchange

def isCall : Exchange → Bool
  | .polled _ | .answered .. | .reported .. => true
  | .drew _ | .freed => false

def isPoll : Exchange → Bool
  | .polled _ => true
  | _ => false

def calls (xs : List Exchange) : List Exchange := xs.filter isCall

def polls (xs : List Exchange) : Nat := xs.countP isPoll

lemma calls_draws (ids : List UInt64) (xs : List Exchange) :
    calls (ids.map .drew ++ xs) = calls xs := by
  simp [calls, isCall]

lemma polls_draws (ids : List UInt64) (xs : List Exchange) :
    polls (ids.map .drew ++ xs) = polls xs := by
  simp [polls, isPoll]

end Exchange

namespace Leg

def itemMarks : Option (Progress Obj) → List (Mark Obj)
  | some (.item i) => [.item i]
  | _ => []

def marks (l : Leg E Q Obj) : List (Mark Obj) :=
  (Exchange.calls l.exchanges).map .call ++ itemMarks l.answer

def polls (l : Leg E Q Obj) : Nat := Exchange.polls l.exchanges

end Leg

namespace Query

open Exchange Reference

variable [Engine E Q]

def plain (r : Run (Recorded E) Q Obj) : Work E Obj := View.erasing.work (work r)

lemma plain_tallied (e : Error) (r : Run (Recorded E) Q Obj) : plain (tallied e r) = plain r := by
  unfold tallied
  split <;> rfl

lemma failed_eq (x : Except Fault Unit) : (failed x : Option (Item Obj)) =
    match x.mapError Fault.queryError with
    | .ok () => none
    | .error e => some (.error e) := by
  cases x <;> rfl

structure Echoes (u : Upshot E Obj) (r r' : Run (Recorded E) Q Obj) (x : Except Error Unit)
    (xs : List Exchange) : Prop where
  record : r'.record = r.record ++ xs
  calls : calls xs = u.calls
  polls : polls xs = 0
  work : plain r' = u.work
  handle : r'.query.handle = r.query.handle
  item : u.item = match x with
    | .ok () => none
    | .error e => some (.error e)

section Answering

variable {event : Event} {r : Run (Recorded E) Q Obj} {w : Work (Recorded E) Obj}
  {ids : List UInt64} (hids : w.host.source.record = r.record ++ ids.map Exchange.drew)

include hids

lemma reported_echoes {e : Error} (hd : Dispatching.dispatch event (work r) = (.error e, w))
    (hp : Dispatching.dispatch event (plain r) = (.error e, View.erasing.work w)) :
    ∃ xs, Echoes (reply r.query.handle event (plain r)) r (answer event r).2 (answer event r).1
      xs := by
  obtain ⟨hr, hq⟩ := answer_of_error_replies hd
  rw [reply_of_error hp]
  refine ⟨ids.map .drew ++ [.reported e.display _], ?_, calls_draws _ _, polls_draws _ _, ?_,
    by rw [hq], ?_⟩
  · rw [hr, hids, List.append_assoc]
    rfl
  · rw [answer_of_error hd]
    exact congrArg (withSource _) (plain_tallied e (withWork r w))
  · rw [answer_of_error hd]

lemma answered_echoes {a : Option Answer} (hd : Dispatching.dispatch event (work r) = (.ok a, w))
    (hp : Dispatching.dispatch event (plain r) = (.ok a, View.erasing.work w)) :
    ∃ xs, Echoes (reply r.query.handle event (plain r)) r (answer event r).2 (answer event r).1
      xs := by
  have hc := Dispatching.dispatch_yields event (work r) a (by rw [hd])
  cases a with
  | none =>
    rw [reply_of_nothing hp hc.symm, answer_of_nothing hd]
    exact ⟨ids.map .drew, hids, by simp [calls, isCall], by simp [polls, isPoll], rfl, rfl, rfl⟩
  | some a =>
    obtain ⟨hr, hq⟩ := answer_of_answer_replies hd
    rw [reply_of_answer hp hc.symm]
    refine ⟨ids.map .drew ++ [.answered a.callId a.result _], ?_, calls_draws _ _,
      polls_draws _ _, ?_, by rw [hq], ?_⟩
    · rw [hr, hids, List.append_assoc]
      rfl
    · rw [answer_of_answer hd]
      rfl
    · rw [answer_of_answer hd]
      exact failed_eq _

end Answering

lemma answer_echoes (event : Event) (r : Run (Recorded E) Q Obj) :
    ∃ xs, Echoes (reply r.query.handle event (plain r)) r (answer event r).2 (answer event r).1
      xs := by
  obtain ⟨ids, -, hids, -⟩ := Dispatching.dispatch_adds event (work r)
  have hv := (View.dispatch_follows View.erasing_resolves event (work r) trivial).eq
  rcases hd : Dispatching.dispatch event (work r) with ⟨e | a, w⟩ <;> rw [hd] at hids hv
  · exact reported_echoes hids hd hv
  · exact answered_echoes hids hd hv

end Query

end PolicyBridge
