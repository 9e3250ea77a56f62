import Mathlib.Tactic
import PolicyBridge.Proofs.Dispatch.Viewing
import PolicyBridge.Proofs.Native.Owing
import PolicyBridge.Proofs.Query.Ruling

namespace PolicyBridge

namespace Query

open NativeEngine (Owes Keeps)

variable {L Obj : Type} {b : Since} {rest : Multiset Pointer}
  {r r' : Run (NativeEngine (Watched L)) NativeQuery Obj}

structure Owing (b : Since) (rest : Multiset Pointer)
    (r : Run (NativeEngine (Watched L)) NativeQuery Obj) : Prop where
  owes : Owes b (r.query.handle.out + rest) r.shared.host.source
  spent : r.query.released = true → r.query.handle.out = 0

namespace Owing

lemma same (h : Owing b rest r) (hh : r'.query.handle = r.query.handle)
    (hr : r'.query.released = r.query.released)
    (ho : Owes b (r.query.handle.out + rest) r'.shared.host.source) : Owing b rest r' := by
  refine ⟨by rwa [hh], fun hx => ?_⟩
  rw [hh]
  exact h.spent (hr ▸ hx)

lemma keeps {α : Type} (h : Owing b rest r) {m : StateM (NativeEngine (Watched L)) α}
    (hm : Keeps r.query.handle.out m) :
    Owes b (r.query.handle.out + rest) (m r.shared.host.source).2 :=
  hm b _ _ (Multiset.le_add_right _ _) h.owes

lemma paid (h : Owing b rest r) (hr : r.query.released = true) :
    Owes b rest r.shared.host.source := by
  have ho := h.owes
  rwa [h.spent hr, zero_add] at ho

end Owing

variable [Library L]

lemma dispatch_owes {e : Event} {w : Work (NativeEngine (Watched L)) Obj} {out : Multiset Pointer}
    (h : Owes b out w.host.source) : Owes b out (Dispatching.dispatch e w).2.host.source :=
  Dispatching.dispatch_keeps (P := Owes b out) (fun _ hs => NativeEngine.next_owes hs) e w h

lemma answer_owing (h : Owing b rest r) (e : Event) : Owing b rest (answer e r).2 := by
  have hd := dispatch_owes (e := e) (w := work r) h.owes
  rcases hx : Dispatching.dispatch e (work r) with ⟨x | _ | a, w⟩ <;> rw [hx] at hd
  · have ho := NativeEngine.answerApplicationError_keeps r.query.handle x.display b _ w.host.source
      (Multiset.le_add_right _ rest) hd
    rw [answer_of_error hx]
    unfold tallied
    split <;> exact h.same rfl rfl ho
  · rw [answer_of_nothing hx]
    exact h.same rfl rfl hd
  · rw [answer_of_answer hx]
    exact h.same rfl rfl (NativeEngine.answerCall_keeps r.query.handle a.callId a.result b _ _
      (Multiset.le_add_right _ rest) hd)

lemma freeHandle_owing (h : Owing b rest r) :
    Owing b rest (freeHandle r).2 ∧ (freeHandle r).2.query.handle.out = 0 := by
  -- freed before or not, the handle holds no pointer afterwards: a second free finds none
  obtain ⟨hn, ho⟩ := NativeEngine.free_settles h.owes
  have hh : (freeHandle r).2.query.handle = ⟨none⟩ := hn
  have hz : (freeHandle r).2.query.handle.out = 0 := by
    rw [hh]
    rfl
  exact ⟨⟨by rwa [hz, zero_add], fun _ => hz⟩, hz⟩

lemma release_owing (h : Owing b rest r) (o : QueryOutcome) : Owing b rest (release o r).2 := by
  cases hr : r.query.released with
  | true => rwa [release_of_released hr]
  | false =>
    obtain ⟨hf, -⟩ := freeHandle_owing h
    rw [release_of_held hr]
    exact ⟨hf.owes, hf.spent⟩

lemma fail_owing (h : Owing b rest r) (e : Error) : Owing b rest (fail e r).2 :=
  release_owing (r := { r with query := { r.query with state := .errored } }) ⟨h.owes, h.spent⟩ .errored

lemma recoverOrFail_owing (h : Owing b rest r) (e : Error) :
    Owing b rest (recoverOrFail e r).2 := by
  cases he : e.isQueryFatal with
  | true =>
    rw [recoverOrFail_of_fatal he]
    exact fail_owing h e
  | false =>
    rw [recoverOrFail_of_not_fatal he]
    exact ⟨h.owes, h.spent⟩

lemma poll_owing (h : Owing b rest r) : Owing b rest (poll r).2 := by
  have hp : Owing b rest (polled r) :=
    h.same rfl rfl (h.keeps (NativeEngine.nextEvent_keeps r.query.handle))
  have ha {e : Event} {x : Except Error Unit}
      {r' : Run (NativeEngine (Watched L)) NativeQuery Obj}
      (hr : answer e (awaiting (polled r)) = (x, r')) : Owing b rest r' := by
    have hw : Owing b rest (awaiting (polled r)) := ⟨hp.owes, hp.spent⟩
    have := answer_owing hw e
    rwa [hr] at this
  generalize hx : ((Engine.nextEvent r.query.handle : EngineCall _ Event) r.shared.host.source).1 = x
  have hc := poll_cases hx
  generalize (poll r).1 = p, (poll r).2 = r' at hc
  cases hc with
  | fault f => exact fail_owing hp _
  | done _ =>
    exact release_owing (r := { polled r with query := { (polled r).query with state := .done } })
      ⟨hp.owes, hp.spent⟩ .completed
  | solution _ => exact ⟨hp.owes, hp.spent⟩
  | unreadable _ => exact recoverOrFail_owing hp _
  | answered _ hr => exact ha hr
  | failed _ hr => exact recoverOrFail_owing (ha hr) _

lemma pollUpTo_owing (polls : Nat) (h : Owing b rest r) : Owing b rest (pollUpTo polls r).2 := by
  induction polls generalizing r with
  | zero => exact h
  | succ n ih =>
    rw [pollUpTo_succ]
    cases (poll r).1 with
    | some p => exact poll_owing h
    | none => exact ih (poll_owing h)

lemma next_owing (polls : Nat) (h : Owing b rest r) : Owing b rest (next polls r).2 := by
  cases hs : r.query.state.isTerminal with
  | true =>
    rw [next_of_terminal hs]
    exact h
  | false =>
    rw [next_of_active hs]
    exact pollUpTo_owing polls h

lemma close_owing (h : Owing b rest r) : Owing b rest (close r).2 := by
  cases hs : r.query.state.isTerminal with
  | true =>
    rw [close_of_terminal hs]
    exact release_owing h _
  | false =>
    rw [close_of_active hs]
    exact release_owing (r := { r with query := { r.query with state := .done } })
      ⟨h.owes, h.spent⟩ .abandoned

lemma settle_owes (p : Progress Obj) (h : Owing b rest r) :
    Owes b rest (settle p r).2.shared.host.source := by
  unfold settle
  split
  · exact (release_owing h _).paid (release_released _ _)
  · exact (close_owing h).paid (close_released _)

end Query

end PolicyBridge
