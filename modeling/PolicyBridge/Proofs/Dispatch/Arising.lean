import Mathlib.Tactic
import PolicyBridge.Proofs.Dispatch.Hosting

namespace PolicyBridge

variable {S Obj α : Type}

namespace Registry

variable (r : Registry Obj)

lemma classOf_refuses (i : Instance Obj) : Refuses (r.classOf i) := by
  unfold classOf
  split
  · exact .ok _
  · exact .error trivial

lemma registerWithId_refuses (id : UInt64) (i : Instance Obj) (o : Owner) :
    Refuses (r.registerWithId id i o) := by
  unfold registerWithId
  split
  · exact .error trivial
  · exact .ok _

lemma isa_refuses (t : Term) (tag : String) : Refuses (r.isa t tag) := by
  cases t with
  | external id _ _ _ => exact (r.lookup_refuses id).bind fun _ _ => .ok _
  | integer _ | float _ | string _ | boolean _ | list _ _ | dictionary _ => exact .ok _
  | literal _ _ | dictionaryPattern _ | instancePattern _ _ | call _ _ _ | var _ =>
    exact .error trivial

lemma isSubSpecializer_refuses (id : UInt64) (left right : String) :
    Refuses (r.isSubSpecializer id left right) :=
  (r.lookup_refuses id).bind fun _ _ => .ok _

end Registry

namespace Dispatching

def Arises (w : Work S Obj) (e : Event) (x : Error) : Prop :=
  x.IsRefusal ∨ ∃ h, Runs w e h ∧ h.Fails x

variable {w : Work S Obj} {e : Event}

lemma arises_of_refuses {x : Except Error α} (h : Refuses x) : Raises (Arises w e) x :=
  fun y hy => .inl (h y hy)

lemma Runs.arises {hook : Hook} {c k : String} {o : Outcome α} (h : Runs w e ⟨hook, c, k, o.bare⟩) :
    Raises (Arises w e) (o.guarded c k) :=
  fun _ hy => .inr ⟨_, h, Outcome.guarded_bare.mpr hy⟩

lemma refuseKeywords_refuses (kwargs : Option (Dict String Term)) (member : String) :
    Refuses (refuseKeywords kwargs member) := by
  unfold refuseKeywords
  split
  · exact .error trivial
  · exact .ok _

section Building

lemma construct_arises (id : UInt64) (t : Term) :
    Raises (Arises w (.makeExternal id t)) (construct w.registry t) := by
  cases t with
  | call name args kwargs =>
    refine (arises_of_refuses (refuseKeywords_refuses kwargs name)).bind fun _ hk => ?_
    unfold namedClass
    cases hc : w.registry.class? name with
    | none => exact .error (.inl trivial)
    | some c =>
      refine .bind (.ok c) ?_
      rintro _ ⟨⟩
      unfold constructorOf
      cases hf : c.construct with
      | none => exact .error (.inl trivial)
      | some f =>
        refine .bind (.ok f) ?_
        rintro _ ⟨⟩
        refine (arises_of_refuses (Marshal.fromTerms_refuses _ args)).bind fun vs hv => ?_
        exact (Runs.constructor hk hc hf hv).arises.bind fun _ _ => .ok _
  | _ => exact .error (.inl trivial)

lemma furnish_arises (id : UInt64) (t : Term) :
    Raises (Arises w (.makeExternal id t)) (furnish w.registry id t) :=
  (construct_arises id t).bind fun _ _ => arises_of_refuses (Registry.registerWithId_refuses _ _ _ _)

end Building

section Comparing

variable {i j : Instance Obj}

lemma instancesEqual_arises
    (h : ∀ c eq, w.registry.Equates i j c eq → Runs w e ⟨.equality, c.name, "==", (eq i j).bare⟩) :
    Raises (Arises w e) (w.registry.instancesEqual i j) := by
  unfold Registry.instancesEqual
  split
  · exact .ok _
  · rename_i hs
    cases hc : w.registry.classFor? i with
    | none => exact .ok _
    | some c =>
      dsimp only
      cases he : c.equality with
      | none => exact .ok _
      | some eq => exact (h c eq ⟨by simpa using hs, hc, he⟩).arises

lemma unify_arises (callId left right : UInt64) :
    Raises (Arises w (.externalUnify callId left right)) (w.registry.unify left right) := by
  refine (arises_of_refuses (w.registry.lookup_refuses left)).bind fun i hi => ?_
  refine (arises_of_refuses (w.registry.lookup_refuses right)).bind fun j hj => ?_
  exact instancesEqual_arises fun c eq he => .unification hi hj he

variable {callId : UInt64} {o : Operator} {left right : Term}

lemma compareInstances_arises (hl : Marshal.fromTerm w.registry left = .ok (.object i))
    (hr : Marshal.fromTerm w.registry right = .ok (.object j)) :
    Raises (Arises w (.externalOp callId o [left, right])) (w.registry.compareInstances o i j) := by
  by_cases ho : o = .eq ∨ o = .neq
  · have he : Raises (Arises w (.externalOp callId o [left, right])) (w.registry.instancesEqual i j) :=
      instancesEqual_arises fun c eq he => .equality ho hl hr he
    rcases ho with rfl | rfl
    · exact he
    · exact he.bind fun _ _ => .ok _
  · obtain ⟨ho, ho'⟩ := not_or.mp ho
    rw [compareInstances_of_order ho ho']
    refine (arises_of_refuses (w.registry.classOf_refuses i)).bind fun c hc => ?_
    cases hh : c.ordering with
    | none => exact .error (.inl trivial)
    | some cmp => exact (Runs.ordering ho ho' hl hr (classFor?_of_classOf hc) hh).arises.map

lemma compareTerms_arises (args : List Term) :
    Raises (Arises w (.externalOp callId o args)) (w.registry.compareTerms o args) := by
  match args with
  | [left, right] =>
    refine (arises_of_refuses (Marshal.fromTerm_refuses _ left)).bind fun l hl => ?_
    refine (arises_of_refuses (Marshal.fromTerm_refuses _ right)).bind fun r hr => ?_
    unfold Registry.compareValues
    split
    · exact compareInstances_arises hl hr
    · split
      · exact .ok _
      · split
        · exact .ok _
        · exact .ok _
        · exact .error (.inl trivial)
  | [] | [_] | _ :: _ :: _ :: _ => exact .error (.inl trivial)

end Comparing

section Calling

variable {t : Term} {member : String} {args : Option (List Term)}
  {kwargs : Option (Dict String Term)} {p : Receipt Obj}

lemma receiver_refuses (member : String) (v : HostValue Obj) : Refuses (receiver member v) := by
  cases v with
  | object i => exact .ok i
  | _ => exact .error trivial

lemma receive_refuses (r : Registry Obj) (t : Term) (member : String) (args : Option (List Term))
    (kwargs : Option (Dict String Term)) : Refuses (receive r t member args kwargs) := by
  refine (refuseKeywords_refuses kwargs member).bind fun _ _ => ?_
  refine .bind ?_ fun i _ => (r.classOf_refuses i).bind fun c _ => .bind ?_ fun _ _ => .ok _
  · exact (Marshal.fromTerm_refuses r t).bind fun v _ => receiver_refuses member v
  · cases args with
    | none => exact .ok _
    | some args => exact Marshal.fromTerms_refuses r args

lemma place_refuses (r : Registry Obj) (c : Class Obj) (member : String) (kind : MemberKind) :
    Refuses (place r c member kind) := by
  unfold place
  split
  · exact .ok _
  · exact .error trivial

lemma resolve_refuses (c : Class Obj) (member : String) (kind : MemberKind) (w : Work S Obj) :
    Refuses (resolve c member kind w).1 := by
  cases h : w.host.cache with
  | none =>
    rw [resolve_of_no_cache h]
    exact place_refuses _ _ _ _
  | some m =>
    rcases resolve_cases h with ⟨x, owner, -, -, hr⟩ | ⟨-, hr⟩ <;> rw [hr]
    · exact .ok _
    · exact place_refuses _ _ _ _

lemma runMember_arises (callId : UInt64)
    (hp : receive w.registry t member args kwargs = .ok p) {owner : Class Obj}
    {found : MemberKind}
    (ho : (resolve p.ofClass member (kindOf args) w).1 = .ok (owner, found)) :
    Raises (Arises w (.externalCall callId t member args kwargs))
      (runMember owner member found p.object p.args) := by
  unfold runMember
  cases found
  · dsimp only
    cases hg : owner.attributes.find? member with
    | none => exact .error (.inl trivial)
    | some g => exact (Runs.getter hp ho hg).arises
  · dsimp only
    cases hf : owner.methods.find? member with
    | none => exact .error (.inl trivial)
    | some f => exact (Runs.method hp ho hf).arises

variable [IdSource S]

lemma callMember_arises (callId : UInt64) (t : Term) (member : String) (args : Option (List Term))
    (kwargs : Option (Dict String Term)) :
    Raises (Arises w (.externalCall callId t member args kwargs))
      (callMember t member args kwargs w).1 := by
  cases hp : receive w.registry t member args kwargs with
  | error x =>
    rw [callMember_eq, hp]
    exact .error (.inl (receive_refuses _ _ _ _ _ x hp))
  | ok p =>
    rw [callMember_of_received t member args kwargs hp]
    refine Failing.bind_raises (arises_of_refuses (resolve_refuses _ _ _ w)) fun x w' hr => ?_
    have hm := runMember_arises callId hp (congrArg Prod.fst hr)
    exact Failing.bind_raises hm fun v w'' _ =>
      arises_of_refuses (Marshal.toTerm_refuses v w''.desk)

end Calling

section Iterating

variable [IdSource S] {callId : UInt64} {t : Term}

omit [IdSource S] in
lemma cursor_arises : Raises (Arises w (.nextExternal callId t)) (cursor callId t w).1 := by
  rw [cursor_eq]
  cases hn : w.own.iterators.find? callId with
  | some c => exact .ok c
  | none =>
    refine .map ((arises_of_refuses (Marshal.fromTerm_refuses _ t)).bind fun v hv => ?_)
    cases v with
    | list items => exact .ok _
    | object i =>
      refine (arises_of_refuses (w.registry.classOf_refuses i)).bind fun c hc => ?_
      cases hh : c.iterator with
      | none => exact .error (.inl trivial)
      | some hook => exact (Runs.iterator hn hv (classFor?_of_classOf hc) hh).arises
    | _ => exact .error (.inl trivial)

lemma nextExternal_arises :
    Raises (Arises w (.nextExternal callId t)) (nextExternal callId t w).1 := by
  refine Failing.bind_raises cursor_arises fun c w' hc => ?_
  refine Failing.bind_raises (.ok _) fun w₁ w₂ _ => ?_
  cases ho : c.steps c.position with
  | none => exact Failing.bind_raises (.ok _) fun _ _ _ => .ok _
  | some o =>
    have hs := (Runs.step (congrArg Prod.fst hc) ho).arises
    refine Failing.bind_raises (.ok _) fun _ w₃ _ => Failing.bind_raises hs fun v w₄ _ => ?_
    exact Failing.bind_raises (arises_of_refuses (Marshal.toTerm_refuses v w₄.desk)) fun _ _ _ => .ok _

end Iterating

variable [IdSource S]

theorem dispatch_arises (e : Event) (w : Work S Obj) : Raises (Arises w e) (dispatch e w).1 := by
  cases e with
  | makeExternal id t =>
    refine Failing.bind_raises ?_ fun _ _ _ => .ok _
    have hf := furnish_arises (w := w) id t
    rw [makeExternal_eq]
    cases h : furnish w.registry id t with
    | error x => exact .error (hf x h)
    | ok r => exact .ok ()
  | externalCall callId t member args kwargs =>
    exact Failing.bind_raises (callMember_arises callId t member args kwargs) fun _ _ _ => .ok _
  | externalIsa callId t tag =>
    exact Failing.bind_raises (.ok _) fun r _ _ => Failing.bind_raises
      (arises_of_refuses (r.isa_refuses t tag)) fun _ _ _ => .ok _
  | externalIsSubSpecializer callId id left right =>
    exact Failing.bind_raises (.ok _) fun r _ _ => Failing.bind_raises
      (arises_of_refuses (r.isSubSpecializer_refuses id left right)) fun _ _ _ => .ok _
  | externalIsSubclass callId left right => exact Failing.bind_raises (.ok _) fun _ _ _ => .ok _
  | externalUnify callId left right =>
    rw [dispatch_unify]
    exact (unify_arises callId left right).map
  | externalOp callId o args =>
    rw [dispatch_op]
    exact (compareTerms_arises args).map
  | nextExternal callId t => exact Failing.bind_raises nextExternal_arises fun _ _ _ => .ok _
  | done _ | result _ _ => exact .error (.inl trivial)

end Dispatching

end PolicyBridge
