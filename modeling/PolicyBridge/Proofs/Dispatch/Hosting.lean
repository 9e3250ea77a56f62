import Mathlib.Tactic
import PolicyBridge.Proofs.Dispatch.Remembering
import PolicyBridge.Proofs.Marshal.Refusing

/-! The host code that answering an event runs. If it fails, so does the event, with nothing changed
but what is remembered and how far an iterator has come. All other failures are refusals. -/

namespace PolicyBridge

variable {S Obj α β : Type}

inductive Hook where
  | constructor
  | getter
  | method
  | equality
  | ordering
  | iterator
  | step
deriving DecidableEq

def Hook.isStep : Hook → Bool
  | .step => true
  | _ => false

structure HostRun where
  hook : Hook
  className : String
  member : String
  outcome : Outcome Unit

namespace Outcome

def bare (o : Outcome α) : Outcome Unit := o.map fun _ => ()

def complaint? : Outcome α → Option String
  | .raised m | .failed (.application m _ _) => some m
  | .panicked text => some (panicText text)
  | _ => none

variable {o : Outcome α} {c k : String} {x : Error}

lemma guarded_bare : o.bare.guarded c k = .error x ↔ o.guarded c k = .error x := by
  cases o <;> simp [bare, map, guarded, result]

lemma guarded_eq_application {m : String} {c' k' : Option String} :
    o.guarded c k = .error (.application m c' k') ↔
      o.complaint? = some m ∧ c' = some c ∧ k' = some k := by
  have hs (a b : String) : some a = c' ∧ some b = k' ↔ c' = some a ∧ k' = some b :=
    and_congr eq_comm eq_comm
  cases o with
  | value a => simp [guarded, result, complaint?]
  | raised n => simp [guarded, result, Error.raised, Error.withMember, complaint?, hs]
  | failed e => cases e <;> simp [guarded, result, Error.withMember, complaint?, hs]
  | panicked t => simp [guarded, result, Error.raised, Error.withMember, complaint?, hs]

lemma guarded_of_failed (h : ∀ m a b, x ≠ .application m a b) :
    (.failed x : Outcome α).guarded c k = .error x := by
  cases x with
  | application m a b => exact absurd rfl (h m a b)
  | _ => rfl

lemma guarded_of_panicked (text : Option String) :
    (.panicked text : Outcome α).guarded c k =
      .error (.application (panicText text) (some c) (some k)) := rfl

end Outcome

namespace HostRun

def Fails (h : HostRun) (x : Error) : Prop := h.outcome.guarded h.className h.member = .error x

end HostRun

structure Registry.Equates (r : Registry Obj) (i j : Instance Obj) (c : Class Obj)
    (eq : Instance Obj → Instance Obj → Outcome Bool) : Prop where
  differ : i.sameObject j = false
  ofClass : r.classFor? i = some c
  hook : c.equality = some eq

namespace Dispatching

/-- The host code that runs in answering an event. -/
inductive Runs (w : Work S Obj) : Event → HostRun → Prop
  | constructor {id : UInt64} {name : String} {args : List Term}
      {kwargs : Option (List (String × Term))} {c : Class Obj} {f : Args Obj → Outcome Obj}
      {vs : Args Obj} :
      refuseKeywords kwargs name = .ok () → w.registry.class? name = some c →
        c.construct = some f → Marshal.fromTerms w.registry args = .ok vs →
          Runs w (.makeExternal id (.call name args kwargs))
            ⟨.constructor, c.name, "new", (f vs).bare⟩
  | getter {callId : UInt64} {t : Term} {member : String} {args : Option (List Term)}
      {kwargs : Option (Dict String Term)} {p : Receipt Obj} {owner : Class Obj} {g : Getter Obj} :
      receive w.registry t member args kwargs = .ok p →
        (resolve p.ofClass member (kindOf args) w).1 = .ok (owner, .attribute) →
          owner.attributes.find? member = some g →
            Runs w (.externalCall callId t member args kwargs)
              ⟨.getter, owner.name, member, (g p.object).bare⟩
  | method {callId : UInt64} {t : Term} {member : String} {args : Option (List Term)}
      {kwargs : Option (Dict String Term)} {p : Receipt Obj} {owner : Class Obj} {f : Method Obj} :
      receive w.registry t member args kwargs = .ok p →
        (resolve p.ofClass member (kindOf args) w).1 = .ok (owner, .method) →
          owner.methods.find? member = some f →
            Runs w (.externalCall callId t member args kwargs)
              ⟨.method, owner.name, member, (f p.object p.args).bare⟩
  | unification {callId left right : UInt64} {i j : Instance Obj} {c : Class Obj}
      {eq : Instance Obj → Instance Obj → Outcome Bool} :
      w.registry.lookup left = .ok i → w.registry.lookup right = .ok j →
        w.registry.Equates i j c eq →
          Runs w (.externalUnify callId left right) ⟨.equality, c.name, "==", (eq i j).bare⟩
  | equality {callId : UInt64} {o : Operator} {left right : Term} {i j : Instance Obj}
      {c : Class Obj} {eq : Instance Obj → Instance Obj → Outcome Bool} :
      o = .eq ∨ o = .neq → Marshal.fromTerm w.registry left = .ok (.object i) →
        Marshal.fromTerm w.registry right = .ok (.object j) → w.registry.Equates i j c eq →
          Runs w (.externalOp callId o [left, right]) ⟨.equality, c.name, "==", (eq i j).bare⟩
  | ordering {callId : UInt64} {o : Operator} {left right : Term} {i j : Instance Obj}
      {c : Class Obj} {cmp : Instance Obj → Instance Obj → Outcome (Option Ordering)} :
      o ≠ .eq → o ≠ .neq → Marshal.fromTerm w.registry left = .ok (.object i) →
        Marshal.fromTerm w.registry right = .ok (.object j) → w.registry.classFor? i = some c →
          c.ordering = some cmp →
            Runs w (.externalOp callId o [left, right]) ⟨.ordering, c.name, "<", (cmp i j).bare⟩
  | iterator {callId : UInt64} {t : Term} {i : Instance Obj} {c : Class Obj}
      {hook : Instance Obj → Outcome (Steps Obj)} :
      w.own.iterators.find? callId = none → Marshal.fromTerm w.registry t = .ok (.object i) →
        w.registry.classFor? i = some c → c.iterator = some hook →
          Runs w (.nextExternal callId t) ⟨.iterator, c.name, "__iter__", (hook i).bare⟩
  | step {callId : UInt64} {t : Term} {c : Cursor Obj} {o : Outcome (HostValue Obj)} :
      (cursor callId t w).1 = .ok c → c.steps c.position = some o →
        Runs w (.nextExternal callId t) ⟨.step, "iterator", "next", o.bare⟩

def advanced (callId : UInt64) (c : Cursor Obj) (d : Dispatcher Obj) : Dispatcher Obj :=
  { d with iterators := d.iterators.insert callId { c with position := c.position + 1 } }

/-- What the query owns once host code has failed: the same as before, but for a step taken. -/
inductive Spends (w : Work S Obj) : Event → Hook → Dispatcher Obj → Prop
  | nothing {e : Event} {hook : Hook} : hook.isStep = false → Spends w e hook w.own
  | step {callId : UInt64} {t : Term} {c : Cursor Obj} :
      (cursor callId t w).1 = .ok c →
        Spends w (.nextExternal callId t) .step (advanced callId c w.own)

lemma Spends.allocated {w : Work S Obj} {e : Event} {hook : Hook} {own : Dispatcher Obj}
    (h : Spends w e hook own) : own.allocated = w.own.allocated := by
  cases h <;> rfl

section Reading

variable {r : Registry Obj} {i j : Instance Obj} {c : Class Obj} {o : Operator} {x : Error}

lemma classOf_of_classFor? (h : r.classFor? i = some c) : r.classOf i = .ok c := by
  rw [Registry.classOf, h]

lemma instancesEqual_of_equates {eq : Instance Obj → Instance Obj → Outcome Bool}
    (h : r.Equates i j c eq) : r.instancesEqual i j = (eq i j).guarded c.name "==" := by
  rw [Registry.instancesEqual, if_neg (by rw [h.differ]; exact Bool.false_ne_true), h.ofClass]
  dsimp only
  rw [h.hook]

lemma compareTerms_of_objects {left right : Term} (hl : Marshal.fromTerm r left = .ok (.object i))
    (hr : Marshal.fromTerm r right = .ok (.object j)) (o : Operator) :
    r.compareTerms o [left, right] = r.compareInstances o i j := by
  rw [Registry.compareTerms, hl, hr]
  rfl

lemma compareInstances_of_unequal (ho : o = .eq ∨ o = .neq) (h : r.instancesEqual i j = .error x) :
    r.compareInstances o i j = .error x := by
  rcases ho with rfl | rfl
  · exact h
  · rw [Registry.compareInstances, h]
    rfl

lemma compareInstances_of_order (h : o ≠ .eq) (h' : o ≠ .neq) :
    r.compareInstances o i j = (r.classOf i).bind fun c => match c.ordering with
      | none => .error (Registry.unordered c)
      | some cmp => ((cmp i j).guarded c.name "<").map o.holds := by
  cases o with
  | eq => exact absurd rfl h
  | neq => exact absurd rfl h'
  | _ =>
    unfold Registry.compareInstances
    cases r.classOf i with
    | error e => rfl
    | ok c =>
      simp only [Bind.bind, Except.bind]
      cases c.ordering with
      | none => rfl
      | some cmp => cases (cmp i j).guarded c.name "<" <;> rfl

lemma construct_of_call {name : String} {args : List Term} {kwargs : Option (List (String × Term))}
    {f : Args Obj → Outcome Obj} {vs : Args Obj} (hk : refuseKeywords kwargs name = .ok ())
    (hc : r.class? name = some c) (hf : c.construct = some f)
    (hv : Marshal.fromTerms r args = .ok vs) : construct r (.call name args kwargs) =
      ((f vs).guarded c.name "new").map fun o => r.build o c.receiver := by
  simp only [construct, namedClass, constructorOf, hk, hc, hv, Bind.bind, Except.bind, hf]
  cases (f vs).guarded c.name "new" <;> rfl

lemma stepsOf_of_object {hook : Instance Obj → Outcome (Steps Obj)} (hc : r.classFor? i = some c)
    (hh : c.iterator = some hook) :
    stepsOf r (.object i) = (hook i).guarded c.name "__iter__" := by
  simp only [stepsOf, classOf_of_classFor? hc, Bind.bind, Except.bind, hh]

end Reading

lemma lift_map (x : Except Error α) (f : α → β) (w : Work S Obj) :
    (lift x >>= fun a => pure (f a) : Dispatching S Obj β) w = (x.map f, w) := by
  cases x <;> rfl

section Cursors

variable (callId : UInt64) (t : Term) (w : Work S Obj)

lemma cursor_eq : cursor callId t w = (match w.own.iterators.find? callId with
    | some c => .ok c
    | none => ((Marshal.fromTerm w.registry t).bind (stepsOf w.registry)).map (⟨·, 0⟩), w) := by
  have hc : cursor callId t w = (match w.own.iterators.find? callId with
      | some c => return c
      | none => registry >>= fun r =>
        lift ((Marshal.fromTerm r t).bind (stepsOf r)) >>= fun steps => return ⟨steps, 0⟩ :
        Dispatching S Obj (Cursor Obj)) w := Failing.bind_ok rfl
  rw [hc]
  cases w.own.iterators.find? callId with
  | some c => rfl
  | none => exact (Failing.bind_ok rfl).trans (lift_map _ _ w)

lemma cursor_of {c : Cursor Obj} (h : (cursor callId t w).1 = .ok c) :
    cursor callId t w = (.ok c, w) := by
  rw [← h, cursor_eq]

end Cursors

section Failures

variable [IdSource S] {w w' : Work S Obj} {x : Error}

omit [IdSource S] in
lemma answered_bool (callId : UInt64) (f : Registry Obj → Except Error Bool) (w : Work S Obj) :
    (registry >>= fun r => lift (f r) >>= fun b => return boolean callId b :
      Dispatching S Obj (Option Answer)) w = ((f w.registry).map (boolean callId), w) := by
  exact (Failing.bind_ok rfl).trans (lift_map _ _ w)

lemma dispatch_unify (callId left right : UInt64) (w : Work S Obj) :
    dispatch (.externalUnify callId left right) w =
      ((w.registry.unify left right).map (boolean callId), w) :=
  answered_bool callId (·.unify left right) w

lemma dispatch_op (callId : UInt64) (o : Operator) (args : List Term) (w : Work S Obj) :
    dispatch (.externalOp callId o args) w =
      ((w.registry.compareTerms o args).map (boolean callId), w) :=
  answered_bool callId (·.compareTerms o args) w

lemma dispatch_of_unbuilt {id : UInt64} {t : Term} (h : furnish w.registry id t = .error x) :
    dispatch (.makeExternal id t) w = (.error x, w) := by
  refine Failing.bind_error ?_
  rw [makeExternal_eq, h]

lemma dispatch_of_uncalled {callId : UInt64} {t : Term} {member : String}
    {args : Option (List Term)} {kwargs : Option (Dict String Term)} {p : Receipt Obj}
    {owner : Class Obj} {found : MemberKind} (hp : receive w.registry t member args kwargs = .ok p)
    (hr : resolve p.ofClass member (kindOf args) w = (.ok (owner, found), w'))
    (hm : runMember owner member found p.object p.args = .error x) :
    dispatch (.externalCall callId t member args kwargs) w = (.error x, w') := by
  refine Failing.bind_error ?_
  rw [callMember_of_received t member args kwargs hp]
  exact (Failing.bind_ok hr).trans (Failing.bind_error (lift_error hm w'))

lemma dispatch_of_uniterable {callId : UInt64} {t : Term}
    (h : cursor callId t w = (.error x, w)) :
    dispatch (.nextExternal callId t) w = (.error x, w) :=
  Failing.bind_error (Failing.bind_error h)

lemma dispatch_of_missed_step {callId : UInt64} {t : Term} {c : Cursor Obj}
    {o : Outcome (HostValue Obj)} (hc : (cursor callId t w).1 = .ok c)
    (ho : c.steps c.position = some o) (hx : o.guarded "iterator" "next" = .error x) :
    dispatch (.nextExternal callId t) w = (.error x, ⟨w.host, advanced callId c w.own⟩) := by
  refine Failing.bind_error ?_
  refine (Failing.bind_ok (cursor_of callId t w hc)).trans ((Failing.bind_ok rfl).trans ?_)
  rw [ho]
  exact (Failing.bind_ok rfl).trans (Failing.bind_error (lift_error hx _))

lemma Runs.leaves {e : Event} {h : HostRun} (hr : Runs w e h) (hx : h.Fails x) :
    ∃ cache own, dispatch e w = (.error x, ⟨{ w.host with cache := cache }, own⟩) ∧
      Spends w e h.hook own := by
  cases hr with
  | @constructor id name args kwargs c f vs hk hc hf hv =>
    have hb := construct_of_call hk hc hf hv
    rw [Outcome.guarded_bare.mp hx] at hb
    refine ⟨w.host.cache, w.own, dispatch_of_unbuilt ?_, .nothing rfl⟩
    rw [furnish, hb]
    rfl
  | @getter callId t member args kwargs p owner g hp ho hg =>
    obtain ⟨cache, hw⟩ := resolve_leaves p.ofClass member (kindOf args) w
    refine ⟨cache, w.own, dispatch_of_uncalled hp (Prod.ext ho hw) ?_, .nothing rfl⟩
    simp only [runMember, hg]
    exact Outcome.guarded_bare.mp hx
  | @method callId t member args kwargs p owner f hp ho hf =>
    obtain ⟨cache, hw⟩ := resolve_leaves p.ofClass member (kindOf args) w
    refine ⟨cache, w.own, dispatch_of_uncalled hp (Prod.ext ho hw) ?_, .nothing rfl⟩
    simp only [runMember, hf]
    exact Outcome.guarded_bare.mp hx
  | @unification callId left right i j c eq hl hr he =>
    refine ⟨w.host.cache, w.own, ?_, .nothing rfl⟩
    have hu : w.registry.unify left right = .error x := by
      rw [Registry.unify, hl, hr]
      exact (instancesEqual_of_equates he).trans (Outcome.guarded_bare.mp hx)
    rw [dispatch_unify, hu]
    rfl
  | @equality callId o left right i j c eq ho hl hr he =>
    refine ⟨w.host.cache, w.own, ?_, .nothing rfl⟩
    have hc := compareInstances_of_unequal ho
      ((instancesEqual_of_equates he).trans (Outcome.guarded_bare.mp hx))
    rw [dispatch_op, compareTerms_of_objects hl hr, hc]
    rfl
  | @ordering callId o left right i j c cmp ho ho' hl hr hc hh =>
    refine ⟨w.host.cache, w.own, ?_, .nothing rfl⟩
    rw [dispatch_op, compareTerms_of_objects hl hr, compareInstances_of_order ho ho',
      classOf_of_classFor? hc, Except.bind, hh]
    dsimp only
    rw [Outcome.guarded_bare.mp hx]
    rfl
  | @iterator callId t i c hook hn ht hc hh =>
    refine ⟨w.host.cache, w.own, dispatch_of_uniterable ?_, .nothing rfl⟩
    rw [cursor_eq, hn, ht]
    dsimp only [Except.bind]
    rw [stepsOf_of_object hc hh, Outcome.guarded_bare.mp hx]
    rfl
  | @step callId t c o hc ho =>
    exact ⟨w.host.cache, _, dispatch_of_missed_step hc ho (Outcome.guarded_bare.mp hx), .step hc⟩

end Failures

end Dispatching

end PolicyBridge
