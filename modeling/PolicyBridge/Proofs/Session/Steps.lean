import Mathlib.Tactic
import PolicyBridge.Proofs.Failing
import PolicyBridge.Proofs.Query.Ruling
import PolicyBridge.Session.Basic

namespace PolicyBridge

variable {E Q Obj α : Type}

namespace Session

def recorded (s : Session E Obj) : Session (Recorded E) Obj :=
  ⟨s.shared.recorded [], s.constants, s.config⟩

def record (s : Session (Recorded E) Obj) : List Exchange := s.shared.host.source.record

def desk (s : Session E Obj) : Desk E Obj := ⟨s.shared.host.source, s.registry, []⟩

def withDesk (s : Session E Obj) (d : Desk E Obj) : Session E Obj :=
  s.withHost { s.shared.host with source := d.source, registry := d.registry }

def withSource (s : Session E Obj) (e : E) : Session E Obj :=
  s.withHost { s.shared.host with source := e }

def releasing (s : Session E Obj) (ids : List UInt64) : Session E Obj :=
  s.withRegistry (Marshal.releaseAll s.registry ids)

section Parts

variable {s s' : Session E Obj} {m : InSession E Obj α} {ids : List UInt64}

lemma orRelease_of_ok {a : α} (h : m s = (.ok a, s')) : orRelease ids m s = (.ok a, s') :=
  Failing.tryCatch_ok h

lemma orRelease_of_error {e : Error} (h : m s = (.error e, s')) :
    orRelease ids m s = (.error e, s'.releasing ids) :=
  Failing.tryCatch_error h

lemma engine_of_ok {f : Fault → Error} {c : EngineCall E α} {a : α} {e : E}
    (h : c s.shared.host.source = (.ok a, e)) : engine f c s = (.ok a, s.withSource e) := by
  unfold engine
  rw [h]
  rfl

lemma engine_of_error {f : Fault → Error} {c : EngineCall E α} {x : Fault} {e : E}
    (h : c s.shared.host.source = (.error x, e)) :
    engine f c s = (.error (f x), s.withSource e) := by
  unfold engine
  rw [h]
  rfl

lemma marshal_of {m : Marshaling E Obj α} {y : Except Error α} {d : Desk E Obj}
    (h : m s.desk = (y, d)) : marshal m s = (.ok (y, d.allocated), s.withDesk d) := by
  have hr : marshal m s = (.ok ((m s.desk).1, (m s.desk).2.allocated), s.withDesk (m s.desk).2) :=
    rfl
  rw [hr, h]

end Parts

section Starting

variable [Engine E Q] {s : Session E Obj} {d : Desk E Obj} {x : Fault} {e : E} {handle : Q}

def begun (s : Session E Obj) : Session E Obj :=
  { s with shared := s.shared.record Telemetry.recordStarted }

def starting (m : Marshaling E Obj α) (f : Fault → Error) (c : α → EngineCall E Q) :
    InSession E Obj (Query Q Obj) := do
  let (marshaled, ids) ← marshal m
  orRelease ids do
    let handle ← engine f (c (← liftExcept marshaled))
    started handle ids

variable {m : Marshaling E Obj α} {f : Fault → Error} {c : α → EngineCall E Q}

omit [Engine E Q] in
lemma starting_eq {y : Except Error α} (h : m s.desk = (y, d)) :
    starting m f c s = orRelease d.allocated
      (liftExcept y >>= fun a => engine f (c a) >>= fun handle => started handle d.allocated)
        (s.withDesk d) :=
  Failing.bind_ok (marshal_of h)

omit [Engine E Q] in
lemma starting_of_unmarshalable {x : Error} (h : m s.desk = (.error x, d)) :
    starting m f c s = (.error x, (s.withDesk d).releasing d.allocated) := by
  rw [starting_eq h]
  exact orRelease_of_error rfl

omit [Engine E Q] in
lemma starting_of_refused {a : α} (h : m s.desk = (.ok a, d)) (hc : c a d.source = (.error x, e)) :
    starting m f c s = (.error (f x), ((s.withDesk d).withSource e).releasing d.allocated) := by
  rw [starting_eq h]
  refine orRelease_of_error ((Failing.bind_ok rfl).trans ?_)
  exact Failing.bind_error (engine_of_error hc)

omit [Engine E Q] in
lemma starting_of_accepted {a : α} (h : m s.desk = (.ok a, d))
    (hc : c a d.source = (.ok handle, e)) : starting m f c s =
      (.ok (Query.begin handle ⟨d.allocated, []⟩), ((s.withDesk d).withSource e).begun) := by
  rw [starting_eq h]
  refine orRelease_of_ok ((Failing.bind_ok rfl).trans ?_)
  exact (Failing.bind_ok (engine_of_ok hc)).trans rfl

def marshaled (args : List (HostValue Obj)) (bindings : List (String × HostValue Obj)) :
    Marshaling E Obj (List Term × Bindings) := do
  let args ← Marshal.toTerms args
  return (args, ← Marshal.toBindings bindings)

lemma evaluate_eq (rule : String) (args : List (HostValue Obj))
    (bindings : List (String × HostValue Obj)) : (evaluate rule args bindings : InSession E Obj _) =
      starting (marshaled args bindings) Fault.queryError fun x =>
        Engine.newQuery (.call rule x.1 none) x.2 := rfl

lemma evaluateText_eq (text : String) (bindings : List (String × HostValue Obj)) :
    (evaluateText text bindings : InSession E Obj _) =
      starting (Marshal.toBindings bindings) Fault.loadError (Engine.newQueryOfText text) := rfl

lemma isAllowed_of_error {polls : Nat} {a b c : HostValue Obj} {s s' : Session E Obj} {x : Error}
    (h : evaluate "allow" [a, b, c] [] s = (.error x, s')) :
    isAllowed polls a b c s = (.error x, s') :=
  Failing.bind_error h

lemma isAllowed_of_started {polls : Nat} {a b c : HostValue Obj} {s s' : Session E Obj}
    {q : Query Q Obj} (h : evaluate "allow" [a, b, c] [] s = (.ok q, s')) :
    isAllowed polls a b c s =
      let x := Query.next polls ⟨s'.shared, q⟩
      (x.1.verdict, { s' with shared := (Query.settle x.1 x.2).2.shared }) := by
  rcases hn : Query.next polls ⟨s'.shared, q⟩ with ⟨p, r⟩
  have ho : onQuery q (Query.next polls) s' =
      (.ok (p, r.query), { s' with shared := r.shared }) := by
    rw [onQuery, hn]
  refine (Failing.bind_ok h).trans ((Failing.bind_ok ho).trans ?_)
  rcases p with (e | v) | _ | _ <;> rfl

end Starting

section Binding

variable [Engine E Q] {s : Session E Obj} {name : String} {t : Term} {ids : List UInt64} {x : Fault}
  {e : E} {v : HostValue Obj} {d : Desk E Obj}

def keptFor (s : Session E Obj) (name : String) : List UInt64 := (s.constants.find? name).getD []

def binding (s : Session E Obj) (name : String) (ids : List UInt64) : Session E Obj :=
  { s.releasing (s.keptFor name) with constants := s.constants.insert name ids }

lemma bindConstant_of_accepted
    (h : (Engine.registerConstant name t : EngineCall E Unit) s.shared.host.source = (.ok (), e)) :
    bindConstant name t ids s = (.ok (), (s.withSource e).binding name ids) :=
  (Failing.bind_ok (engine_of_ok h)).trans rfl

lemma bindConstant_of_refused
    (h : (Engine.registerConstant name t : EngineCall E Unit) s.shared.host.source = (.error x, e)) :
    bindConstant name t ids s = (.error x.loadError, s.withSource e) :=
  Failing.bind_error (engine_of_error h)

lemma registerConstant_eq {y : Except Error Term} (h : Marshal.toTerm v s.desk = (y, d)) :
    registerConstant name v s = orRelease d.allocated
      (liftExcept y >>= fun t => bindConstant name t d.allocated) (s.withDesk d) :=
  Failing.bind_ok (marshal_of h)

lemma registerConstant_of_unmarshalable {x : Error} (h : Marshal.toTerm v s.desk = (.error x, d)) :
    registerConstant name v s = (.error x, (s.withDesk d).releasing d.allocated) := by
  rw [registerConstant_eq h]
  exact orRelease_of_error rfl

lemma registerConstant_of_refused (h : Marshal.toTerm v s.desk = (.ok t, d))
    (hc : (Engine.registerConstant name t : EngineCall E Unit) d.source = (.error x, e)) :
    registerConstant name v s =
      (.error x.loadError, ((s.withDesk d).withSource e).releasing d.allocated) := by
  rw [registerConstant_eq h]
  exact orRelease_of_error ((Failing.bind_ok rfl).trans (bindConstant_of_refused hc))

lemma registerConstant_of_accepted (h : Marshal.toTerm v s.desk = (.ok t, d))
    (hc : (Engine.registerConstant name t : EngineCall E Unit) d.source = (.ok (), e)) :
    registerConstant name v s =
      (.ok (), ((s.withDesk d).withSource e).binding name d.allocated) := by
  rw [registerConstant_eq h]
  exact orRelease_of_ok ((Failing.bind_ok rfl).trans (bindConstant_of_accepted hc))

def enrolled [ClassObject Obj] (s : Session E Obj) (c : Class Obj) : Session E Obj :=
  let x := IdSource.next s.shared.host.source
  let (i, r) := (s.registry.registerClass c).build ClassObject.object (ClassObject.hostType Obj)
  s.withHost ⟨x.2, r.register x.1 i .host, s.shared.host.cache.map Cache.clear⟩

lemma registerClass_eq [ClassObject Obj] (c : Class Obj) :
    registerClass c s =
      let id := (IdSource.next s.shared.host.source).1
      bindConstant c.name (classTerm id c.name) [id] (s.enrolled c) := rfl

end Binding

end Session

end PolicyBridge
