import Mathlib.Tactic
import PolicyBridge.Proofs.Dispatch.Remembering
import PolicyBridge.Proofs.Query.Steps

namespace PolicyBridge

variable {E Q Obj : Type}

namespace Run

variable [IdSource E]

def forget (r : Run E Q Obj) : Run E Q Obj :=
  ⟨{ r.shared with host := View.forgetting.host r.shared.host }, r.query⟩

def Good (r : Run E Q Obj) : Prop := View.forgetting.goodHost r.shared.host

end Run

namespace Query

variable [Engine E Q]

abbrev Forgets (m : Running E Q Obj α) : Prop := Follows Run.Good Run.forget m m

lemma setState_forgets (s : QueryState) : Forgets (setState s : Running E Q Obj Unit) :=
  fun _ h => ⟨rfl, h⟩

lemma record_forgets (f : Telemetry → Telemetry) : Forgets (record f : Running E Q Obj Unit) :=
  fun _ h => ⟨rfl, h⟩

lemma engine_forgets (m : Q → StateM E α) : Forgets (engine m : Running E Q Obj α) :=
  fun _ h => ⟨rfl, h⟩

lemma dispatch_forgets (e : Event) : Forgets (dispatch e : Running E Q Obj _) := by
  intro r hr
  obtain ⟨he, hg⟩ := View.dispatch_follows View.forgetting_resolves e (work r) hr
  refine ⟨?_, hg⟩
  change ((Dispatching.dispatch e (View.forgetting.work (work r))).1,
    withWork r.forget (Dispatching.dispatch e (View.forgetting.work (work r))).2) = _
  rw [he]
  rfl

lemma freeHandle_forgets : Forgets (freeHandle : Running E Q Obj Unit) :=
  (engine_forgets _).bind fun _ _ h => ⟨rfl, h⟩

lemma closeWork_forgets :
    Forgets (modify fun r => withWork r (work r).close : Running E Q Obj Unit) := by
  intro r hr
  refine ⟨rfl, ?_⟩
  change Remembers (Marshal.releaseAll r.shared.host.registry r.query.own.allocated).byName _
  rw [Marshal.byName_releaseAll]
  exact hr

lemma release_forgets (o : QueryOutcome) : Forgets (release o : Running E Q Obj Unit) := by
  refine Follows.looking fun r => ?_
  change Follows _ _ (ite (r.query.released = true) _ _) (ite (r.query.released = true) _ _)
  split
  · exact Follows.pure _
  · exact freeHandle_forgets.bind fun _ => closeWork_forgets.bind fun _ => record_forgets _

lemma fail_forgets (e : Error) : Forgets (fail e : Running E Q Obj Error) :=
  (setState_forgets _).bind fun _ => (release_forgets _).bind fun _ => Follows.pure e

lemma recoverOrFail_forgets (e : Error) : Forgets (recoverOrFail e : Running E Q Obj Error) := by
  unfold recoverOrFail
  split
  · exact fail_forgets e
  · exact (setState_forgets _).bind fun _ => Follows.pure e

lemma answer_forgets (event : Event) : Forgets (answer event : Running E Q Obj _) := by
  refine (dispatch_forgets event).bind fun x => ?_
  rcases x with e | _ | a
  · dsimp only
    split
    · exact (record_forgets _).bind fun _ => (engine_forgets _).bind fun _ => Follows.pure _
    · exact (engine_forgets _).bind fun _ => Follows.pure _
  · exact Follows.pure _
  · refine (engine_forgets _).bind fun x => ?_
    rcases x with f | _ <;> exact Follows.pure _

lemma give_forgets (x : Except Error (Dict String (HostValue Obj))) :
    Forgets (give x : Running E Q Obj _) := by
  cases x with
  | ok values => exact (record_forgets _).bind fun _ => Follows.pure _
  | error e => exact (recoverOrFail_forgets e).bind fun _ => Follows.pure _

lemma solution_forgets (bindings : Bindings) : Forgets (solution bindings : Running E Q Obj _) :=
  Follows.looking fun r => give_forgets (Marshal.fromBindings r.registry bindings)

lemma onEvent_forgets (event : Event) : Forgets (onEvent event : Running E Q Obj _) := by
  cases event with
  | done b =>
    exact (setState_forgets _).bind fun _ => (release_forgets _).bind fun _ => Follows.pure _
  | result bindings trace => exact (solution_forgets bindings).bind fun _ => Follows.pure _
  | _ =>
    refine (setState_forgets _).bind fun _ => (record_forgets _).bind fun _ => ?_
    refine (answer_forgets _).bind fun x => ?_
    rcases x with e | _
    · exact (recoverOrFail_forgets e).bind fun _ => Follows.pure _
    · exact Follows.pure _

lemma poll_forgets : Forgets (poll : Running E Q Obj _) := by
  refine (setState_forgets _).bind fun _ => (engine_forgets _).bind fun x => ?_
  rcases x with f | event
  · exact (fail_forgets _).bind fun _ => Follows.pure _
  · exact onEvent_forgets event

lemma pollUpTo_forgets (n : Nat) : Forgets (pollUpTo n : Running E Q Obj _) := by
  induction n with
  | zero => exact Follows.pure _
  | succ n ih =>
    refine poll_forgets.bind fun x => ?_
    cases x with
    | some p => exact Follows.pure p
    | none => exact ih

lemma next_forgets (polls : Nat) : Forgets (next polls : Running E Q Obj _) := by
  refine Follows.looking fun r => ?_
  change Follows _ _ (ite (r.query.state.isTerminal = true) _ _)
    (ite (r.query.state.isTerminal = true) _ _)
  split
  · exact Follows.pure _
  · exact pollUpTo_forgets polls

lemma close_forgets : Forgets (close : Running E Q Obj Unit) := by
  refine Follows.looking fun r => ?_
  change Follows _ _ (ite (r.query.state.isTerminal = true) _ _)
    (ite (r.query.state.isTerminal = true) _ _)
  split
  · exact release_forgets _
  · exact (setState_forgets _).bind fun _ => release_forgets _

lemma drop_forgets : Forgets (drop : Running E Q Obj Unit) := release_forgets _

end Query

end PolicyBridge
