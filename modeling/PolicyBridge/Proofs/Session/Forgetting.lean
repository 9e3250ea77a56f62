import Mathlib.Tactic
import PolicyBridge.Proofs.Query.Forgetting
import PolicyBridge.Session.Basic

namespace PolicyBridge

variable {E Q Obj α : Type}

def Config.uncached (c : Config) : Config := { c with cache := { c.cache with enabled := false } }

namespace Session

section Ids

variable [IdSource E]

def forget (s : Session E Obj) : Session E Obj where
  shared := { s.shared with host := View.forgetting.host s.shared.host }
  constants := s.constants
  config := s.config.uncached

def Good (s : Session E Obj) : Prop := View.forgetting.goodHost s.shared.host

abbrev Forgets (m : InSession E Obj α) : Prop := Follows Good forget m m

lemma liftExcept_forgets (x : Except Error α) : Forgets (liftExcept x : InSession E Obj α) :=
  fun _ h => ⟨rfl, h⟩

lemma modifyRegistry_forgets {f : Registry Obj → Registry Obj} (hf : ∀ r, (f r).byName = r.byName) :
    Forgets (modifyRegistry f : InSession E Obj Unit) := by
  intro s hs
  refine ⟨rfl, ?_⟩
  change Remembers (f s.registry).byName s.shared.host.cache
  rw [hf]
  exact hs

lemma releaseIds_forgets (ids : List UInt64) : Forgets (releaseIds ids : InSession E Obj Unit) :=
  modifyRegistry_forgets fun r => Marshal.byName_releaseAll r ids

omit [IdSource E] in
lemma engine_eq (ofFault : Fault → Error) (m : EngineCall E α) (s : Session E Obj) :
    engine ofFault m s = ((m s.shared.host.source).1.mapError ofFault,
      s.withHost { s.shared.host with source := (m s.shared.host.source).2 }) := by
  unfold engine
  rcases m s.shared.host.source with ⟨f | a, e⟩ <;> rfl

lemma engine_forgets (ofFault : Fault → Error) (m : EngineCall E α) :
    Forgets (engine ofFault m : InSession E Obj α) := by
  intro s hs
  refine ⟨?_, ?_⟩
  · rw [engine_eq, engine_eq]
    rfl
  · rw [engine_eq]
    exact hs

lemma marshal_forgets {m : Marshaling E Obj α} (hm : View.forgetting.Marshals m m) :
    Forgets (marshal m) := by
  intro s hs
  exact ⟨rfl, (hm s.shared.host.cache ⟨s.shared.host.source, s.registry, []⟩ hs).good⟩

lemma orRelease_forgets {m : InSession E Obj α} (ids : List UInt64) (hm : Forgets m) :
    Forgets (orRelease ids m) :=
  hm.orElse fun e => (releaseIds_forgets ids).attempt fun _ => Follows.throw e

lemma nextId_forgets : Forgets (nextId : InSession E Obj UInt64) := fun _ h => ⟨rfl, h⟩

lemma register_forgets (i : Instance Obj) (o : Owner) :
    Forgets (register i o : InSession E Obj UInt64) :=
  nextId_forgets.attempt fun id =>
    (modifyRegistry_forgets (f := fun r => r.register id i o) fun _ => rfl).attempt fun _ =>
      Follows.succeed id

lemma releaseInstance_forgets (id : UInt64) :
    Forgets (releaseInstance id : InSession E Obj Unit) := by
  intro s hs
  have h : releaseInstance id s = (liftExcept (s.registry.release id) >>= fun x =>
      modifyRegistry fun _ => x.2 : InSession E Obj Unit) s := rfl
  have h' : releaseInstance id s.forget = (liftExcept (s.registry.release id) >>= fun x =>
      modifyRegistry fun _ => x.2 : InSession E Obj Unit) s.forget := rfl
  refine .of_eq h h' ?_
  cases he : s.registry.live? id with
  | none =>
    rw [Registry.release_of_free _ _ he]
    exact ⟨rfl, hs⟩
  | some e =>
    rw [Registry.release_of_live _ _ he]
    exact ⟨rfl, hs⟩

lemma recordStarted_forgets : Forgets (recordStarted : InSession E Obj Unit) :=
  fun _ h => ⟨rfl, h⟩

lemma started_forgets (handle : Q) (ids : List UInt64) :
    Forgets (started handle ids : InSession E Obj (Query Q Obj)) :=
  recordStarted_forgets.attempt fun _ => Follows.succeed _

def enroll (c : Class Obj) : InSession E Obj Unit := do
  modifyRegistry fun r => r.registerClass c
  clearCache

lemma enroll_forgets (c : Class Obj) : Forgets (enroll c : InSession E Obj Unit) := by
  intro s hs
  refine ⟨rfl, ?_, ?_⟩
  · intro n c' hc
    change (s.registry.byName.insert c.name c).find? n = some c' at hc
    rw [Dict.find?_insert] at hc
    split at hc
    · rename_i hn
      rw [← Option.some.inj hc, hn]
    · exact hs.named n c' hc
  -- The memory is emptied with the change, so nothing is left in it that could be out of date.
  · intro m hm e he
    obtain ⟨m', -, rfl⟩ := Option.map_eq_some_iff.mp hm
    cases he

end Ids

section Engines

variable [Engine E Q]

lemma load_forgets (sources : List Source) : Forgets (load sources : InSession E Obj Unit) :=
  engine_forgets _ _

lemma clearRules_forgets : Forgets (clearRules : InSession E Obj Unit) := engine_forgets _ _

lemma loadFiles_forgets (fs : Files) (paths : List String) :
    Forgets (loadFiles fs paths : InSession E Obj Unit) :=
  Follows.reading fun _ => (liftExcept_forgets _).attempt fun _ => engine_forgets _ _

lemma bindConstant_forgets (name : String) (t : Term) (ids : List UInt64) :
    Forgets (bindConstant name t ids : InSession E Obj Unit) := by
  refine (engine_forgets _ _).attempt fun _ => ?_
  intro s hs
  refine ⟨rfl, ?_⟩
  change Remembers (Marshal.releaseAll s.registry ((s.constants.find? name).getD [])).byName _
  rw [Marshal.byName_releaseAll]
  exact hs

lemma registerClass_forgets [ClassObject Obj] (c : Class Obj) :
    Forgets (registerClass c : InSession E Obj Unit) := by
  have h : (registerClass c : InSession E Obj Unit) = enroll c >>= fun _ =>
      buildClassObject >>= fun i => register i .host >>= fun id =>
        bindConstant c.name (classTerm id c.name) [id] := rfl
  rw [h]
  refine (enroll_forgets c).attempt fun _ => ?_
  refine Follows.attempt (fun _ hs => ⟨rfl, hs⟩) fun i => ?_
  exact (register_forgets i .host).attempt fun id => bindConstant_forgets _ _ _

lemma registerConstant_forgets (name : String) (v : HostValue Obj) :
    Forgets (registerConstant name v : InSession E Obj Unit) := by
  refine (marshal_forgets (View.forgetting.toTerm_follows v)).attempt fun x => ?_
  refine orRelease_forgets _ ?_
  exact (liftExcept_forgets _).attempt fun t => bindConstant_forgets _ _ _

lemma toBindings_follows (values : List (String × HostValue Obj)) :
    View.forgetting.Marshals (Marshal.toBindings values : Marshaling E Obj Bindings)
      (Marshal.toBindings values) :=
  fun c => (View.forgetting.toFields_follows values c).attempt fun _ => Follows.succeed _

lemma evaluate_forgets (rule : String) (args : List (HostValue Obj))
    (bindings : List (String × HostValue Obj)) :
    Forgets (evaluate rule args bindings : InSession E Obj (Query Q Obj)) := by
  refine (marshal_forgets fun c => ?_).attempt fun x => orRelease_forgets _ ?_
  · exact (View.forgetting.toTerms_follows args c).attempt fun _ =>
      (toBindings_follows bindings c).attempt fun _ => Follows.succeed _
  · exact (liftExcept_forgets _).attempt fun _ => (engine_forgets _ _).attempt fun _ =>
      started_forgets _ _

lemma evaluateText_forgets (text : String) (bindings : List (String × HostValue Obj)) :
    Forgets (evaluateText text bindings : InSession E Obj (Query Q Obj)) := by
  refine (marshal_forgets (toBindings_follows bindings)).attempt fun x => orRelease_forgets _ ?_
  exact (liftExcept_forgets _).attempt fun _ => (engine_forgets _ _).attempt fun _ =>
    started_forgets _ _

lemma onQuery_forgets (q : Query Q Obj) {m : Running E Q Obj α} (hm : Query.Forgets m) :
    Forgets (onQuery q m : InSession E Obj (α × Query Q Obj)) := by
  intro s hs
  obtain ⟨he, hg⟩ := hm ⟨s.shared, q⟩ hs
  refine ⟨?_, hg⟩
  change (Except.ok ((m (Run.forget ⟨s.shared, q⟩)).1, (m (Run.forget ⟨s.shared, q⟩)).2.query),
    { s.forget with shared := (m (Run.forget ⟨s.shared, q⟩)).2.shared }) = _
  rw [he]
  rfl

lemma isAllowed_forgets (polls : Nat) (actor action resource : HostValue Obj) :
    Forgets (isAllowed polls actor action resource : InSession E Obj (Option Bool)) := by
  refine (evaluate_forgets _ _ _).attempt fun q => ?_
  refine (onQuery_forgets q (Query.next_forgets polls)).attempt fun x => ?_
  have hf (b : Option Bool) : Forgets (isAllowed.finish x.2 b : InSession E Obj (Option Bool)) :=
    (onQuery_forgets x.2 Query.close_forgets).attempt fun _ => Follows.succeed b
  obtain ⟨p, q⟩ := x
  cases p with
  | item i =>
    cases i with
    | error e =>
      exact (onQuery_forgets q Query.drop_forgets).attempt fun _ => Follows.throw e
    | ok r => exact hf _
  | finished => exact hf _
  | pending => exact hf _

end Engines

end Session

end PolicyBridge
