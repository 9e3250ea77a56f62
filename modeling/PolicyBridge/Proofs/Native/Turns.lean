import Mathlib.Tactic
import PolicyBridge.Proofs.Native.Tracing
import PolicyBridge.Proofs.Query.Echoing

namespace PolicyBridge

abbrev NativeRun (L Obj : Type) := Run (NativeEngine (Traced L)) NativeQuery Obj

structure Turn where
  asked : Option (Event × Except Error (Option Answer))
  calls : List NativeCall

namespace Turn

open NativeEngine (resultText)

def replies (p : Pointer) : Option (Event × Except Error (Option Answer)) → List NativeCall
  | none | some (_, .ok none) => []
  | some (_, .ok (some a)) => [.answered p a.callId (resultText a.result)]
  | some (_, .error x) => if '\x00' ∈ x.display.toList then [] else [.reported p x.display]

/-- An event is settled by one answer to its call or by one error, save that nothing is sent for an
object that was built. -/
inductive Settles (p : Pointer) :
    Option (Event × Except Error (Option Answer)) → List NativeCall → Prop
  | unasked : Settles p none []
  | built {id : UInt64} {t : Term} : Settles p (some (.makeExternal id t, .ok none)) []
  | answered {e : Event} {a : Answer} : e.callId? = some a.callId →
      Settles p (some (e, .ok (some a))) [.answered p a.callId (resultText a.result)]
  | told {e : Event} {x : Error} : Settles p (some (e, .error x)) [.reported p x.display]

def Settled (p : Pointer) (t : Turn) : Prop :=
  ∃ cs, t.calls = .polled p :: cs ∧ Settles p t.asked cs

/-- An error that is no C string, though the query goes on after it. -/
def Untold (p : Pointer) (t : Turn) : Prop :=
  t.calls = [.polled p] ∧ ∃ e x, t.asked = some (e, .error x) ∧
    '\x00' ∈ x.display.toList ∧ x.isQueryFatal = false

def Passed (p : Pointer) (t : Turn) : Prop := t.Settled p ∨ t.Untold p

end Turn

def Run.calls {L Obj : Type} (r : NativeRun L Obj) : List NativeCall := r.shared.host.source.calls

namespace Query

open Turn NativeEngine

variable {L Obj : Type} [Library L] {r : NativeRun L Obj} {p : Pointer}

def heard (r : NativeRun L Obj) : Except Fault Event :=
  ((Engine.nextEvent r.query.handle : EngineCall (NativeEngine (Traced L)) Event)
    r.shared.host.source).1

def asked (r : NativeRun L Obj) : Option (Event × Except Error (Option Answer)) :=
  match heard r with
  | .ok e =>
    if e.isExternal then some (e, (Dispatching.dispatch e (work (awaiting (polled r)))).1) else none
  | .error _ => none

def turn (r : NativeRun L Obj) : Turn := ⟨asked r, (poll r).2.calls.drop r.calls.length⟩

lemma asked_of_external {e : Event} (h : heard r = .ok e) (he : e.isExternal = true) :
    asked r = some (e, (Dispatching.dispatch e (work (awaiting (polled r)))).1) := by
  simp only [asked, h, he, if_true]

lemma asked_of_internal {e : Event} (h : heard r = .ok e) (he : e.isExternal = false) :
    asked r = none := by
  simp [asked, h, he]

lemma asked_of_fault {f : Fault} (h : heard r = .error f) : asked r = none := by
  simp only [asked, h]

lemma callId_of_asked {e : Event} {a : Option Answer} (he : heard r = .ok e)
    (hx : e.isExternal = true) (ha : asked r = some (e, .ok a)) :
    a.map Answer.callId = e.callId? := by
  rw [asked_of_external he hx] at ha
  exact Dispatching.dispatch_yields e _ a (Prod.mk.inj (Option.some.inj ha)).2

lemma release_calls (o : QueryOutcome) (r : NativeRun L Obj) : (release o r).2.calls = r.calls := by
  cases h : r.query.released with
  | true => rw [release_of_released h]
  | false =>
    have hf := NativeEngine.free_adds r.query.handle r.shared.host.source
    rw [List.append_nil] at hf
    rw [release_of_held h]
    exact hf

lemma fail_calls (e : Error) (r : NativeRun L Obj) : (fail e r).2.calls = r.calls :=
  release_calls .errored { r with query := { r.query with state := .errored } }

lemma recoverOrFail_calls (e : Error) (r : NativeRun L Obj) :
    (recoverOrFail e r).2.calls = r.calls := by
  cases h : e.isQueryFatal with
  | true =>
    rw [recoverOrFail_of_fatal h]
    exact fail_calls e r
  | false =>
    rw [recoverOrFail_of_not_fatal h]
    rfl

lemma polled_calls (h : r.query.handle = ⟨some p⟩) : (polled r).calls = r.calls ++ [.polled p] := by
  have hn := NativeEngine.nextEvent_adds p r.shared.host.source
  rw [← h] at hn
  exact hn

lemma dispatch_calls (e : Event) (r : NativeRun L Obj) :
    (Dispatching.dispatch e (work r)).2.host.source.calls = r.calls :=
  Dispatching.dispatch_keeps (P := fun s => s.calls = r.calls) (fun _ h => h) e (work r) rfl

omit [Library L] in
lemma tallied_query (e : Error) (r : NativeRun L Obj) : (tallied e r).query = r.query := by
  unfold tallied
  split <;> rfl

lemma answer_sends (hL : Library.Obliging L) (h : r.query.handle = ⟨some p⟩) (e : Event) :
    ∃ r', answer e r = ((Dispatching.dispatch e (work r)).1.map fun _ => (), r') ∧
      r'.calls = r.calls ++ replies p (some (e, (Dispatching.dispatch e (work r)).1)) ∧
      r'.query.handle = ⟨some p⟩ := by
  have hc := dispatch_calls e r
  rcases hd : Dispatching.dispatch e (work r) with ⟨x | _ | a, w⟩
  · rw [hd] at hc
    refine ⟨_, answer_of_error hd, ?_, ?_⟩
    · rw [h]
      by_cases hx : '\x00' ∈ x.display.toList
      · rw [NativeEngine.report_of_nul p hx, replies, if_pos hx, List.append_nil]
        exact hc
      · rw [replies, if_neg hx]
        exact (NativeEngine.report_of_noNul hL p hx w.host.source).trans (congrArg (· ++ _) hc)
    · exact (congrArg (·.handle) (tallied_query x (withWork r w))).trans h
  · rw [hd] at hc
    refine ⟨_, answer_of_nothing hd, ?_, h⟩
    rw [replies, List.append_nil]
    exact hc
  · rw [hd] at hc
    have ha := answer_of_answer hd
    rw [h, NativeEngine.answerCall_eq hL] at ha
    refine ⟨_, ha, ?_, h⟩
    exact congrArg (· ++ [NativeCall.answered p a.callId (resultText a.result)]) hc

inductive Goes (p : Pointer) (t : Turn) :
    Option (Progress Obj) → NativeRun L Obj → Prop
  | ended {x : Progress Obj} {r' : NativeRun L Obj} : r'.query.state.isTerminal = true →
      Goes p t (some x) r'
  | on {x : Option (Progress Obj)} {r' : NativeRun L Obj} : r'.query.handle = ⟨some p⟩ →
      t.Passed p → Goes p t x r'

lemma recoverOrFail_goes {t : Turn} {x : Error} (h : r.query.handle = ⟨some p⟩)
    (ht : x.isQueryFatal = false → t.Passed p) (y : Progress Obj) :
    Goes p t (some y) (recoverOrFail x r).2 := by
  cases hx : x.isQueryFatal with
  | true =>
    rw [recoverOrFail_of_fatal hx]
    exact .ended (congrArg QueryState.isTerminal (fail_state x r))
  | false =>
    rw [recoverOrFail_of_not_fatal hx]
    exact .on h (ht hx)

section Polled

variable (h : r.query.handle = ⟨some p⟩) (hL : Library.Obliging L)

include h hL

lemma answer_polled {e : Event} (he : heard r = .ok e) (hx : e.isExternal = true) :
    ∃ a r', asked r = some (e, a) ∧ answer e (awaiting (polled r)) = (a.map fun _ => (), r') ∧
      r'.calls = r.calls ++ .polled p :: replies p (asked r) ∧ r'.query.handle = ⟨some p⟩ := by
  have ha := asked_of_external he hx
  obtain ⟨r', hr, hc, hh⟩ := answer_sends (r := awaiting (polled r)) hL h e
  refine ⟨_, r', ha, hr, ?_, hh⟩
  have hp : (awaiting (polled r)).calls = r.calls ++ [.polled p] := polled_calls h
  rw [hc, hp, ha, List.append_assoc, List.singleton_append]

lemma poll_calls : (poll r).2.calls = r.calls ++ .polled p :: replies p (asked r) := by
  generalize ha : heard r = a
  have hx := poll_cases ha
  have hp := polled_calls h
  generalize (poll r).1 = y, (poll r).2 = r' at hx
  cases hx with
  | fault f =>
    rw [fail_calls, hp, asked_of_fault ha]
    rfl
  | done b =>
    have hr := release_calls .completed
      { polled r with query := { (polled r).query with state := .done } }
    rw [asked_of_internal ha rfl]
    exact hr.trans hp
  | solution hb =>
    rw [asked_of_internal ha rfl]
    exact hp
  | unreadable hb =>
    rw [recoverOrFail_calls, hp, asked_of_internal ha rfl]
    rfl
  | answered he hr =>
    obtain ⟨a, r', -, hr', hc, -⟩ := answer_polled h hL ha he
    rw [hr] at hr'
    rw [(Prod.mk.inj hr').2, hc]
  | failed he hr =>
    obtain ⟨a, r', -, hr', hc, -⟩ := answer_polled h hL ha he
    rw [hr] at hr'
    rw [recoverOrFail_calls, (Prod.mk.inj hr').2, hc]

lemma turn_eq : turn r = ⟨asked r, .polled p :: replies p (asked r)⟩ := by
  rw [turn, poll_calls h hL, List.drop_left]

lemma turn_calls : (turn r).calls = .polled p :: replies p (asked r) := by rw [turn_eq h hL]

lemma settled_of_internal (ha : asked r = none) : (turn r).Settled p := by
  rw [turn_eq h hL, ha]
  exact ⟨[], rfl, .unasked⟩

lemma settled_of_answered {e : Event} {a : Option Answer} (he : heard r = .ok e)
    (hx : e.isExternal = true) (ha : asked r = some (e, .ok a)) : (turn r).Settled p := by
  have hy := callId_of_asked he hx ha
  rw [turn_eq h hL, ha]
  cases a with
  | some a => exact ⟨_, rfl, .answered hy.symm⟩
  | none =>
    cases e with
    | makeExternal id t => exact ⟨[], rfl, .built⟩
    | done _ | result _ _ => cases hx
    | _ => cases hy

lemma passed_of_failed {e : Event} {x : Error} (ha : asked r = some (e, .error x))
    (hx : x.isQueryFatal = false) : (turn r).Passed p := by
  rw [turn_eq h hL, ha, replies]
  by_cases hn : '\x00' ∈ x.display.toList
  · rw [if_pos hn]
    exact .inr ⟨rfl, e, x, rfl, hn, hx⟩
  · rw [if_neg hn]
    exact .inl ⟨_, rfl, .told⟩

lemma poll_goes : Goes p (turn r) (poll r).1 (poll r).2 := by
  generalize ha : heard r = a
  have hx := poll_cases ha
  generalize (poll r).1 = y, (poll r).2 = r' at hx
  cases hx with
  | fault f => exact .ended (congrArg QueryState.isTerminal (fail_state _ _))
  | done b =>
    have hr := release_state .completed
      { polled r with query := { (polled r).query with state := .done } }
    exact .ended (congrArg QueryState.isTerminal hr)
  | solution hb => exact .on h (.inl (settled_of_internal h hL (asked_of_internal ha rfl)))
  | unreadable hb =>
    have ht := settled_of_internal h hL (asked_of_internal ha rfl)
    exact recoverOrFail_goes (r := polled r) h (fun _ => .inl ht) _
  | answered he hr =>
    obtain ⟨a, r', hask, hr', -, hh⟩ := answer_polled h hL ha he
    rw [hr] at hr'
    cases a with
    | error x => cases hr'
    | ok a =>
      rw [(Prod.mk.inj hr').2]
      exact .on hh (.inl (settled_of_answered h hL ha he hask))
  | failed he hr =>
    obtain ⟨a, r', hask, hr', -, hh⟩ := answer_polled h hL ha he
    rw [hr] at hr'
    cases a with
    | ok a => cases hr'
    | error x =>
      obtain ⟨hx, rfl⟩ := Prod.mk.inj hr'
      cases hx
      exact recoverOrFail_goes hh (passed_of_failed h hL hask) _

end Polled

end Query

end PolicyBridge
