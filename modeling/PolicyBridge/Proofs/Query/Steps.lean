import Mathlib.Tactic
import PolicyBridge.Query

namespace PolicyBridge

variable {E Q Obj α β : Type}

namespace Run

def allocated (r : Run E Q Obj) : List UInt64 := r.query.own.allocated

def registry (r : Run E Q Obj) : Registry Obj := r.shared.host.registry

end Run

namespace Query

def withEngine (e : E) (r : Run E Q Obj) : Run E Q Obj :=
  { r with shared := { r.shared with host := { r.shared.host with source := e } } }

def tallied (e : Error) (r : Run E Q Obj) : Run E Q Obj :=
  if isApplication e then { r with shared := r.shared.record Telemetry.recordApplicationError }
  else r

def awaiting (r : Run E Q Obj) : Run E Q Obj :=
  ⟨r.shared.record Telemetry.recordExternalCall,
    { r.query with state := .awaitingHostResponse }⟩

def isFatal : Item Obj → Bool
  | .ok _ => false
  | .error e => e.isQueryFatal

lemma isQueryFatal_queryError (f : Fault) : f.queryError.isQueryFatal = true := by
  unfold Fault.queryError
  split <;> rfl

section Steps

variable {r r' : Run E Q Obj}

lemma bind_of {m : Running E Q Obj α} {f : α → Running E Q Obj β} {a : α} (h : m r = (a, r')) :
    (m >>= f) r = f a r' := by
  change f (m r).1 (m r).2 = _
  rw [h]

lemma engine_of {m : Q → StateM E α} {a : α} {e : E}
    (h : m r.query.handle r.shared.host.source = (a, e)) : engine m r = (a, withEngine e r) := by
  change ((m r.query.handle r.shared.host.source).1,
    withEngine (m r.query.handle r.shared.host.source).2 r) = _
  rw [h]

end Steps

variable [Engine E Q]

lemma release_of_released {r : Run E Q Obj} (h : r.query.released = true) (o : QueryOutcome) :
    release o r = ((), r) := by
  change (ite (r.query.released = true) (pure ()) _ : Running E Q Obj Unit) r = _
  rw [if_pos h]
  rfl

lemma release_of_held {r : Run E Q Obj} (h : r.query.released = false) (o : QueryOutcome) :
    release o r = (do
      freeHandle
      modify fun r => withWork r (work r).close
      record fun t => t.recordFinished o 0 : Running E Q Obj Unit) r := by
  change (ite (r.query.released = true) (pure ()) _ : Running E Q Obj Unit) r = _
  rw [if_neg (by simp [h])]

lemma release_state (o : QueryOutcome) (r : Run E Q Obj) :
    (release o r).2.query.state = r.query.state := by
  cases h : r.query.released with
  | true => rw [release_of_released h]
  | false =>
    rw [release_of_held h]
    rfl

lemma release_released (o : QueryOutcome) (r : Run E Q Obj) :
    (release o r).2.query.released = true := by
  cases h : r.query.released with
  | true => rw [release_of_released h, h]
  | false =>
    rw [release_of_held h]
    rfl

lemma fail_state (e : Error) (r : Run E Q Obj) : (fail e r).2.query.state = .errored :=
  release_state .errored { r with query := { r.query with state := .errored } }

lemma recoverOrFail_of_fatal {e : Error} (he : e.isQueryFatal = true) (r : Run E Q Obj) :
    recoverOrFail e r = fail e r := by
  rw [recoverOrFail, if_pos he]

lemma recoverOrFail_of_not_fatal {e : Error} (he : e.isQueryFatal = false) (r : Run E Q Obj) :
    recoverOrFail e r = (e, { r with query := { r.query with state := .waitingEvent } }) := by
  rw [recoverOrFail, if_neg (by simp [he])]
  rfl

lemma recoverOrFail_fst (e : Error) (r : Run E Q Obj) : (recoverOrFail e r).1 = e := by
  cases he : e.isQueryFatal with
  | true => rw [recoverOrFail_of_fatal he]; rfl
  | false => rw [recoverOrFail_of_not_fatal he]

section Answering

variable {event : Event} {r : Run E Q Obj} {w : Work E Obj}

lemma dispatch_of {a : Except Error (Option Answer)}
    (h : Dispatching.dispatch event (work r) = (a, w)) :
    dispatch event r = (a, withWork r w) := by
  change ((Dispatching.dispatch event (work r)).1,
    withWork r (Dispatching.dispatch event (work r)).2) = _
  rw [h]

lemma answer_of_nothing (h : Dispatching.dispatch event (work r) = (.ok none, w)) :
    answer event r = (.ok (), withWork r w) :=
  bind_of (dispatch_of h)

lemma answer_of_answer {a : Answer}
    (h : Dispatching.dispatch event (work r) = (.ok (some a), w)) :
    answer event r =
      let x := (Engine.answerCall r.query.handle a.callId a.result : EngineCall E Unit) w.host.source
      (x.1.mapError Fault.queryError, withEngine x.2 (withWork r w)) := by
  refine (bind_of (dispatch_of h)).trans ?_
  rcases hx : (Engine.answerCall r.query.handle a.callId a.result : EngineCall E Unit)
    w.host.source with ⟨x, e⟩
  have he := engine_of (m := fun q => (Engine.answerCall q a.callId a.result).run)
    (r := withWork r w) hx
  cases x <;> exact bind_of he

lemma answer_of_error {e : Error} (h : Dispatching.dispatch event (work r) = (.error e, w)) :
    answer event r =
      let x := (Engine.answerApplicationError r.query.handle e.display : EngineCall E Unit)
        w.host.source
      (.error e, withEngine x.2 (tallied e (withWork r w))) := by
  refine (bind_of (dispatch_of h)).trans ?_
  cases ha : isApplication e with
  | true => simp only [tallied, ha, if_true]; rfl
  | false => simp only [tallied, ha]; rfl

end Answering

def polled (r : Run E Q Obj) : Run E Q Obj :=
  withEngine ((Engine.nextEvent r.query.handle : EngineCall E Event) r.shared.host.source).2
    { r with query := { r.query with state := .waitingEvent } }

lemma engine_polls {r : Run E Q Obj} {x : Except Fault Event}
    (h : ((Engine.nextEvent r.query.handle : EngineCall E Event) r.shared.host.source).1 = x) :
    engine (fun q => (Engine.nextEvent q).run)
      { r with query := { r.query with state := .waitingEvent } } = (x, polled r) :=
  engine_of (Prod.ext h rfl)

lemma poll_of_event {r : Run E Q Obj} {event : Event}
    (h : ((Engine.nextEvent r.query.handle : EngineCall E Event) r.shared.host.source).1 = .ok event) :
    poll r = onEvent event (polled r) :=
  (bind_of rfl).trans (bind_of (engine_polls h))

lemma poll_of_fault {r : Run E Q Obj} {f : Fault}
    (h : ((Engine.nextEvent r.query.handle : EngineCall E Event) r.shared.host.source).1 = .error f) :
    poll r = (some (.item (.error f.queryError)), (fail f.queryError (polled r)).2) :=
  (bind_of rfl).trans (bind_of (engine_polls h))

lemma onEvent_external {event : Event} (he : event.isExternal = true) (r : Run E Q Obj) :
    onEvent event r = (do
      match ← answer event with
      | .ok () => return none
      | .error e => return some (.item (.error (← recoverOrFail e))) :
        Running E Q Obj (Option (Progress Obj))) (awaiting r) := by
  cases event with
  | done _ | result _ _ => cases he
  | _ => rfl

lemma onEvent_of_answered {event : Event} (he : event.isExternal = true) {r r' : Run E Q Obj}
    (h : answer event (awaiting r) = (.ok (), r')) : onEvent event r = (none, r') :=
  (onEvent_external he r).trans (bind_of h)

lemma onEvent_of_failed {event : Event} (he : event.isExternal = true) {r r' : Run E Q Obj}
    {e : Error} (h : answer event (awaiting r) = (.error e, r')) :
    onEvent event r = (some (.item (.error e)), (recoverOrFail e r').2) := by
  refine (onEvent_external he r).trans ((bind_of h).trans ?_)
  change (some (Progress.item (.error (recoverOrFail e r').1)), (recoverOrFail e r').2) = _
  rw [recoverOrFail_fst]

def give : Except Error (Dict String (HostValue Obj)) → Running E Q Obj (Item Obj)
  | .ok values => do
    record Telemetry.recordResult
    return .ok ⟨values⟩
  | .error e => return .error (← recoverOrFail e)

lemma onEvent_result (bindings : Bindings) (trace : Option Json) (r : Run E Q Obj) :
    onEvent (.result bindings trace) r =
      let x := give (Marshal.fromBindings r.registry bindings) r
      (some (.item x.1), x.2) := rfl

lemma onEvent_of_solution {bindings : Bindings} {trace : Option Json} {r : Run E Q Obj}
    {values : Dict String (HostValue Obj)}
    (h : Marshal.fromBindings r.registry bindings = .ok values) :
    onEvent (.result bindings trace) r = (some (.item (.ok ⟨values⟩)),
      { r with shared := r.shared.record Telemetry.recordResult }) := by
  rw [onEvent_result, h]
  rfl

lemma onEvent_of_unreadable {bindings : Bindings} {trace : Option Json} {r : Run E Q Obj}
    {e : Error} (h : Marshal.fromBindings r.registry bindings = .error e) :
    onEvent (.result bindings trace) r = (some (.item (.error e)), (recoverOrFail e r).2) := by
  rw [onEvent_result, h]
  change (some (Progress.item (.error (recoverOrFail e r).1)), (recoverOrFail e r).2) = _
  rw [recoverOrFail_fst]

inductive Polls (r : Run E Q Obj) :
    Except Fault Event → Option (Progress Obj) → Run E Q Obj → Prop
  | fault (f : Fault) :
      Polls r (.error f) (some (.item (.error f.queryError))) (fail f.queryError (polled r)).2
  | done (b : Bool) :
      Polls r (.ok (.done b)) (some .finished) (onEvent (.done b) (polled r)).2
  | solution {bindings : Bindings} {trace : Option Json} {values : Dict String (HostValue Obj)} :
      Marshal.fromBindings (polled r).registry bindings = .ok values →
        Polls r (.ok (.result bindings trace)) (some (.item (.ok ⟨values⟩)))
          { polled r with shared := (polled r).shared.record Telemetry.recordResult }
  | unreadable {bindings : Bindings} {trace : Option Json} {e : Error} :
      Marshal.fromBindings (polled r).registry bindings = .error e →
        Polls r (.ok (.result bindings trace)) (some (.item (.error e)))
          (recoverOrFail e (polled r)).2
  | answered {event : Event} {r' : Run E Q Obj} : event.isExternal = true →
      answer event (awaiting (polled r)) = (.ok (), r') → Polls r (.ok event) none r'
  | failed {event : Event} {e : Error} {r' : Run E Q Obj} : event.isExternal = true →
      answer event (awaiting (polled r)) = (.error e, r') →
        Polls r (.ok event) (some (.item (.error e))) (recoverOrFail e r').2

lemma poll_cases {r : Run E Q Obj} {a : Except Fault Event}
    (ha : ((Engine.nextEvent r.query.handle : EngineCall E Event) r.shared.host.source).1 = a) :
    Polls r a (poll r).1 (poll r).2 := by
  cases a with
  | error f =>
    rw [poll_of_fault ha]
    exact .fault f
  | ok event =>
    rw [poll_of_event ha]
    cases he : event.isExternal with
    | true =>
      rcases hr : answer event (awaiting (polled r)) with ⟨e | u, r'⟩
      · rw [onEvent_of_failed he hr]
        exact .failed he hr
      · rw [onEvent_of_answered he hr]
        exact .answered he hr
    | false =>
      cases event with
      | done b => exact .done b
      | result bindings trace =>
        cases hb : Marshal.fromBindings (polled r).registry bindings with
        | error e =>
          rw [onEvent_of_unreadable hb]
          exact .unreadable hb
        | ok values =>
          rw [onEvent_of_solution hb]
          exact .solution hb
      | _ => cases he

lemma poll_ne_pending (r : Run E Q Obj) : (poll r).1 ≠ some .pending := by
  generalize ha : ((Engine.nextEvent r.query.handle : EngineCall E Event)
    r.shared.host.source).1 = a
  have hx := poll_cases ha
  intro hp
  rw [hp] at hx
  cases hx

lemma pollUpTo_succ (n : Nat) (r : Run E Q Obj) :
    pollUpTo (n + 1) r = match (poll r).1 with
      | some p => (p, (poll r).2)
      | none => pollUpTo n (poll r).2 := by
  rcases h : poll r with ⟨_ | p, r'⟩ <;> exact bind_of h

lemma next_of_terminal {r : Run E Q Obj} (h : r.query.state.isTerminal = true) (polls : Nat) :
    next polls r = (.finished, r) := by
  change (ite (r.query.state.isTerminal = true) (pure .finished) _ :
    Running E Q Obj (Progress Obj)) r = _
  rw [if_pos h]
  rfl

lemma next_of_active {r : Run E Q Obj} (h : r.query.state.isTerminal = false) (polls : Nat) :
    next polls r = pollUpTo polls r := by
  change (ite (r.query.state.isTerminal = true) _ (pollUpTo polls) :
    Running E Q Obj (Progress Obj)) r = _
  rw [if_neg (by simp [h])]

lemma close_of_terminal {r : Run E Q Obj} (h : r.query.state.isTerminal = true) :
    close r = release .abandoned r := by
  change (ite (r.query.state.isTerminal = true) (release .abandoned) _ :
    Running E Q Obj Unit) r = _
  rw [if_pos h]

lemma close_of_active {r : Run E Q Obj} (h : r.query.state.isTerminal = false) :
    close r = release .abandoned { r with query := { r.query with state := .done } } := by
  change (ite (r.query.state.isTerminal = true) _ (setState .done >>= fun _ => release .abandoned) :
    Running E Q Obj Unit) r = _
  rw [if_neg (by simp [h])]
  rfl

lemma close_released (r : Run E Q Obj) : (close r).2.query.released = true := by
  cases hs : r.query.state.isTerminal with
  | true =>
    rw [close_of_terminal hs]
    exact release_released _ _
  | false =>
    rw [close_of_active hs]
    exact release_released _ _

end Query

end PolicyBridge
