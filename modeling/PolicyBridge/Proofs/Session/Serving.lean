import Mathlib.Tactic
import PolicyBridge.Proofs.Dispatch.Resolution
import PolicyBridge.Proofs.Session.Forgetting

namespace PolicyBridge

variable {E Q Obj α : Type}

inductive Request (Obj : Type) where
  | load (sources : List Source)
  | loadFiles (fs : Files) (paths : List String)
  | clearRules
  | registerClass (c : Class Obj)
  | registerConstant (name : String) (v : HostValue Obj)
  | registerInstance (i : Instance Obj)
  | releaseInstance (id : UInt64)
  | lookUp (id : UInt64)
  | evaluate (rule : String) (args : List (HostValue Obj)) (bindings : List (String × HostValue Obj))
  | evaluateText (text : String) (bindings : List (String × HostValue Obj))
  | isAllowed (polls : Nat) (actor action resource : HostValue Obj)
  | next (n polls : Nat)
  | close (n : Nat)
  | drop (n : Nat)

inductive Response (Obj : Type) where
  | done (x : Except Error Unit)
  | registered (x : Except Error UInt64)
  | found (x : Except Error (Instance Obj))
  | allowed (x : Except Error (Option Bool))
  | progress (p : Progress Obj)
  | noQuery

structure Served (E Q Obj : Type) where
  session : Session E Obj
  queries : List (Query Q Obj)

namespace Served

def start (engine : E) (config : Config) : Served E Q Obj := ⟨Session.new engine config, []⟩

def inSession (m : InSession E Obj α) (f : Except Error α → Response Obj) :
    StateM (Served E Q Obj) (Response Obj) := fun s =>
  (f (m s.session).1, { s with session := (m s.session).2 })

def starting (m : InSession E Obj (Query Q Obj)) : StateM (Served E Q Obj) (Response Obj) := fun s =>
  match m s.session with
  | (.ok q, session) => (.done (.ok ()), ⟨session, s.queries ++ [q]⟩)
  | (.error e, session) => (.done (.error e), ⟨session, s.queries⟩)

def onQuery (n : Nat) (m : Running E Q Obj α) (f : α → Response Obj) :
    StateM (Served E Q Obj) (Response Obj) := fun s =>
  match s.queries[n]? with
  | none => (.noQuery, s)
  | some q =>
    let (a, r) := m ⟨s.session.shared, q⟩
    (f a, ⟨{ s.session with shared := r.shared }, s.queries.set n r.query⟩)

variable [Engine E Q] [ClassObject Obj]

def serve : Request Obj → StateM (Served E Q Obj) (Response Obj)
  | .load sources => inSession (Session.load sources) .done
  | .loadFiles fs paths => inSession (Session.loadFiles fs paths) .done
  | .clearRules => inSession Session.clearRules .done
  | .registerClass c => inSession (Session.registerClass c) .done
  | .registerConstant name v => inSession (Session.registerConstant name v) .done
  | .registerInstance i => inSession (Session.registerInstance i) .registered
  | .releaseInstance id => inSession (Session.releaseInstance id) .done
  | .lookUp id => fun s => (.found (s.session.instance? id), s)
  | .evaluate rule args bindings => starting (Session.evaluate rule args bindings)
  | .evaluateText text bindings => starting (Session.evaluateText text bindings)
  | .isAllowed polls actor action resource =>
    inSession (Session.isAllowed polls actor action resource) .allowed
  | .next n polls => onQuery n (Query.next polls) .progress
  | .close n => onQuery n Query.close fun _ => .done (.ok ())
  | .drop n => onQuery n Query.drop fun _ => .done (.ok ())

def serveAll : List (Request Obj) → StateM (Served E Q Obj) (List (Response Obj))
  | [] => return []
  | r :: rs => do
    let x ← serve r
    return x :: (← serveAll rs)

omit [ClassObject Obj]

def forget (s : Served E Q Obj) : Served E Q Obj := ⟨s.session.forget, s.queries⟩

def Good (s : Served E Q Obj) : Prop := s.session.Good

abbrev Forgets (m : StateM (Served E Q Obj) α) : Prop := Follows Good forget m m

lemma inSession_forgets {m : InSession E Obj α} (hm : Session.Forgets m)
    (f : Except Error α → Response Obj) :
    Forgets (inSession m f : StateM (Served E Q Obj) (Response Obj)) := by
  intro s hs
  obtain ⟨he, hg⟩ := hm s.session hs
  refine ⟨?_, hg⟩
  change (f (m s.session.forget).1, { s.forget with session := (m s.session.forget).2 }) = _
  rw [he]
  rfl

section Starting

variable {m : InSession E Obj (Query Q Obj)} {s : Served E Q Obj} {s' : Session E Obj}

omit [Engine E Q] in
lemma starting_of_ok {q : Query Q Obj} (h : m s.session = (.ok q, s')) :
    starting m s = (.done (.ok ()), ⟨s', s.queries ++ [q]⟩) := by
  rw [starting, h]

omit [Engine E Q] in
lemma starting_of_error {e : Error} (h : m s.session = (.error e, s')) :
    starting m s = (.done (.error e), ⟨s', s.queries⟩) := by
  rw [starting, h]

end Starting

lemma starting_forgets {m : InSession E Obj (Query Q Obj)} (hm : Session.Forgets m) :
    Forgets (starting m) := by
  intro s hs
  obtain ⟨he, hg⟩ := hm s.session hs
  have hf : m s.forget.session = _ := he
  rcases hr : m s.session with ⟨e | q, session⟩ <;> rw [hr] at hf hg <;> refine ⟨?_, ?_⟩
  · rw [starting_of_error hr, starting_of_error hf]
    rfl
  · rw [starting_of_error hr]
    exact hg
  · rw [starting_of_ok hr, starting_of_ok hf]
    rfl
  · rw [starting_of_ok hr]
    exact hg

section Queries

variable {n : Nat} {m : Running E Q Obj α} {f : α → Response Obj} {s : Served E Q Obj}

omit [Engine E Q] in
lemma onQuery_of_none (h : s.queries[n]? = none) : onQuery n m f s = (.noQuery, s) := by
  rw [onQuery, h]

omit [Engine E Q] in
lemma onQuery_of_some {q : Query Q Obj} (h : s.queries[n]? = some q) :
    onQuery n m f s =
      let x := m ⟨s.session.shared, q⟩
      (f x.1, ⟨{ s.session with shared := x.2.shared }, s.queries.set n x.2.query⟩) := by
  rw [onQuery, h]
  rfl

end Queries

lemma onQuery_forgets (n : Nat) {m : Running E Q Obj α} (hm : Query.Forgets m)
    (f : α → Response Obj) : Forgets (onQuery n m f) := by
  intro s hs
  cases hq : s.queries[n]? with
  | none =>
    have hq' : s.forget.queries[n]? = none := hq
    refine ⟨?_, ?_⟩ <;> rw [onQuery_of_none hq]
    · exact onQuery_of_none hq'
    · exact hs
  | some q =>
    have hq' : s.forget.queries[n]? = some q := hq
    obtain ⟨he, hg⟩ := hm ⟨s.session.shared, q⟩ hs
    have hf : m ⟨s.forget.session.shared, q⟩ = _ := he
    refine ⟨?_, ?_⟩ <;> rw [onQuery_of_some hq]
    · rw [onQuery_of_some hq', hf]
      rfl
    · exact hg

variable [ClassObject Obj]

lemma serve_forgets (r : Request Obj) : Forgets (serve r : StateM (Served E Q Obj) _) := by
  cases r with
  | load sources => exact inSession_forgets (Session.load_forgets sources) _
  | loadFiles fs paths => exact inSession_forgets (Session.loadFiles_forgets fs paths) _
  | clearRules => exact inSession_forgets (Session.clearRules_forgets (E := E)) _
  | registerClass c => exact inSession_forgets (Session.registerClass_forgets c) _
  | registerConstant name v => exact inSession_forgets (Session.registerConstant_forgets name v) _
  | registerInstance i => exact inSession_forgets (Session.register_forgets i .host) _
  | releaseInstance id => exact inSession_forgets (Session.releaseInstance_forgets id) _
  | lookUp id => exact fun _ h => ⟨rfl, h⟩
  | evaluate rule args bindings => exact starting_forgets (Session.evaluate_forgets rule args bindings)
  | evaluateText text bindings => exact starting_forgets (Session.evaluateText_forgets text bindings)
  | isAllowed polls actor action resource =>
    exact inSession_forgets (Session.isAllowed_forgets polls actor action resource) _
  | next n polls => exact onQuery_forgets n (Query.next_forgets polls) _
  | close n => exact onQuery_forgets n (Query.close_forgets (E := E)) fun _ => .done (.ok ())
  | drop n => exact onQuery_forgets n (Query.drop_forgets (E := E)) fun _ => .done (.ok ())

lemma serveAll_forgets (rs : List (Request Obj)) :
    Forgets (serveAll rs : StateM (Served E Q Obj) _) := by
  induction rs with
  | nil => exact Follows.pure _
  | cons r rs ih => exact (serve_forgets r).bind fun _ => ih.bind fun _ => Follows.pure _

omit [ClassObject Obj] in
lemma start_good (engine : E) (config : Config) : Good (start engine config : Served E Q Obj) := by
  refine ⟨nofun, ?_⟩
  intro m hm e he
  change (if config.cache.enabled = true then some (Cache.ofSize config.cache.maxEntries.toNat)
    else none) = some m at hm
  split at hm
  · obtain rfl := Option.some.inj hm
    cases he
  · cases hm

/-- However a session is used: without its memory it responds alike and is left alike. And between
any two polls of its queries, a call that gets as far as looking for its member runs that of the
first class of the receiver's order that is registered and defines it, or is refused. -/
theorem memory_invisible (engine : E) (config : Config) (rs : List (Request Obj)) :
    let s := (serveAll rs (start engine config)).2
    serveAll rs (start engine config.uncached) =
        ((serveAll rs (start engine config)).1, s.forget) ∧
      ∀ w : Work E Obj, w.registry.byName = s.session.registry.byName →
        w.host.cache = s.session.shared.host.cache →
        ∀ callId t member args kwargs p,
          Dispatching.receive w.registry t member args kwargs = .ok p →
            Dispatching.Resolves callId member (Dispatching.kindOf args) p w
              (Dispatching.dispatch (.externalCall callId t member args kwargs) w) := by
  obtain ⟨he, hg⟩ := serveAll_forgets rs (start engine config) (start_good engine config)
  refine ⟨he, fun w hn hc callId t member args kwargs p hp => ?_⟩
  have hw : Remembers w.registry.byName w.host.cache := by
    rw [hn, hc]
    exact hg
  exact Dispatching.dispatch_resolves hw hp callId

end Served

end PolicyBridge
