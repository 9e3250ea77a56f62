import Mathlib.Tactic
import PolicyBridge.Proofs.Dispatch.Remembering
import PolicyBridge.Proofs.Registry.Recasting

/-! Answering an event does the same when the classes are recast, unless a member is asked for that
the receiver's class inherits. So it makes no difference what a class refuses receivers of other
types with. -/

namespace PolicyBridge

variable {S Obj α : Type}

def Desk.recast (classes : Dict String (Class Obj)) (d : Desk S Obj) : Desk S Obj :=
  { d with registry := d.registry.recast classes }

namespace Work

def recast (classes : Dict String (Class Obj)) (w : Work S Obj) : Work S Obj :=
  { w with host := { w.host with registry := w.registry.recast classes } }

@[simp] lemma registry_recast (classes : Dict String (Class Obj)) (w : Work S Obj) :
    (w.recast classes).registry = w.registry.recast classes := rfl

@[simp] lemma own_recast (classes : Dict String (Class Obj)) (w : Work S Obj) :
    (w.recast classes).own = w.own := rfl

def Recasts (classes : Dict String (Class Obj)) (w : Work S Obj) : Prop :=
  w.registry.Recasts classes

end Work

namespace Dispatching

variable {classes : Dict String (Class Obj)}

def Unaffected (classes : Dict String (Class Obj)) (m m' : Dispatching S Obj α) : Prop :=
  Follows (Work.Recasts classes) (Work.recast classes) m m'

lemma lift_unaffected (x : Except Error α) :
    Unaffected classes (lift x : Dispatching S Obj α) (lift x) :=
  fun _ h => ⟨rfl, h⟩

lemma reading_unaffected {f f' : Registry Obj → Dispatching S Obj α}
    (h : ∀ r, r.Recasts classes → Unaffected classes (f r) (f' (r.recast classes))) :
    Unaffected classes (registry >>= f) (registry >>= f') :=
  fun w hw => ⟨(h w.registry hw w hw).eq, (h w.registry hw w hw).good⟩

lemma makeExternal_unaffected (id : UInt64) (t : Term) :
    Unaffected classes (makeExternal id t : Dispatching S Obj Unit) (makeExternal id t) := by
  intro w hw
  have hf := hw.furnish id t
  refine ⟨?_, ?_⟩
  · rw [makeExternal_eq, makeExternal_eq, Work.registry_recast, hf]
    cases furnish w.registry id t <;> rfl
  · rw [makeExternal_eq]
    cases hr : furnish w.registry id t with
    | error e => exact hw
    | ok r => exact hw.of_same (furnish_gains hr).2.byName (furnish_gains hr).2.byType

lemma cursor_unaffected (callId : UInt64) (iterable : Term) :
    Unaffected classes (cursor callId iterable : Dispatching S Obj (Cursor Obj))
      (cursor callId iterable) := by
  refine Follows.reading fun w => ?_
  dsimp only [Work.own_recast]
  cases w.own.iterators.find? callId with
  | some c => exact Follows.succeed c
  | none =>
    refine reading_unaffected fun r hr => ?_
    have hs : (Marshal.fromTerm (r.recast classes) iterable).bind (stepsOf (r.recast classes)) =
        (Marshal.fromTerm r iterable).bind (stepsOf r) := by
      rw [Registry.Recasts.fromTerm, funext hr.stepsOf]
    rw [hs]
    exact (lift_unaffected _).attempt fun _ => Follows.succeed _

lemma setIterators_unaffected (its : Dict UInt64 (Cursor Obj)) :
    Unaffected classes (setIterators its : Dispatching S Obj Unit) (setIterators its) :=
  fun _ h => ⟨rfl, h⟩

section Marshaling

variable [IdSource S]

lemma objectTerm_unaffected (i : Instance Obj) :
    Follows (fun d : Desk S Obj => d.registry.Recasts classes) (Desk.recast classes)
      (Marshal.objectTerm i) (Marshal.objectTerm i) := by
  refine Follows.attempt ?_ fun id => fun d hd => ⟨?_, hd⟩
  · unfold Marshal.idOf
    cases i.id with
    | none => exact fun d hd => ⟨rfl, hd.of_same rfl rfl⟩
    | some id =>
      refine Follows.reading fun d => ?_
      change Follows _ _ (ite (d.registry.holds id i = true) _ _)
        (ite (d.registry.holds id i = true) _ _)
      split
      · exact Follows.succeed id
      · exact Follows.throw _
  · change ((.ok (.external id none none (some (Marshal.classRepr (d.registry.recast classes) i))),
      d.recast classes) : Except Error Term × Desk S Obj) = _
    rw [hd.classRepr]
    rfl

lemma marshal_unaffected (v : HostValue Obj) :
    Unaffected classes (marshal (Marshal.toTerm v) : Dispatching S Obj Term)
      (marshal (Marshal.toTerm v)) := by
  intro w hw
  obtain ⟨he, hg⟩ := Marshal.toTerm_follows (S := S) objectTerm_unaffected v w.desk hw
  refine ⟨?_, hg⟩
  change ((Marshal.toTerm v (w.desk.recast classes)).1,
    (w.recast classes).withDesk (Marshal.toTerm v (w.desk.recast classes)).2) = _
  rw [he]
  rfl

lemma nextExternal_unaffected (callId : UInt64) (iterable : Term) :
    Unaffected classes (nextExternal callId iterable : Dispatching S Obj _)
      (nextExternal callId iterable) := by
  refine (cursor_unaffected callId iterable).attempt fun c => Follows.reading fun w => ?_
  dsimp only [Work.own_recast]
  cases c.steps c.position with
  | none => exact (setIterators_unaffected _).attempt fun _ => Follows.succeed _
  | some o =>
    refine (setIterators_unaffected _).attempt fun _ => ?_
    refine (lift_unaffected _).attempt fun v => ?_
    exact (marshal_unaffected v).attempt fun _ => Follows.succeed _

end Marshaling

section Members

def PlacesAlike (x y : Class Obj × MemberKind) : Prop := x.1.Alike y.1 ∧ y.2 = x.2

variable {w : Work S Obj} (hw : w.Recasts classes)

include hw

lemma remembered_alike (k : Lookup) : ∃ cache x y,
    remembered k w = (.ok x, withCache cache w) ∧
      remembered k (w.recast classes) = (.ok y, withCache cache (w.recast classes)) ∧
      Option.Rel PlacesAlike x y := by
  cases h : w.host.cache with
  | none =>
    have hr : remembered k (w.recast classes) = (.ok none, w.recast classes) :=
      remembered_of_no_cache h
    exact ⟨w.host.cache, none, none, remembered_of_no_cache h, hr, .none⟩
  | some m =>
    refine ⟨some (m.get k).2, _, _, remembered_of_cache h, remembered_of_cache h, ?_⟩
    cases (m.get k).1 with
    | none => exact .none
    | some f =>
      rw [Option.bind_some, Option.bind_some]
      rcases hw.class?_cases f.className with ⟨hc, hd⟩ | ⟨c, d, hc, hd, hcd⟩
      · rw [hc, Work.registry_recast, hd]
        exact .none
      · rw [hc, Work.registry_recast, hd]
        exact .some ⟨hcd, rfl⟩

lemma resolve_alike {c d : Class Obj} (hcd : c.Alike d) (member : String) (kind : MemberKind) :
    ∃ w', w'.Recasts classes ∧
      ((∃ e, resolve c member kind w = (.error e, w') ∧
          resolve d member kind (w.recast classes) = (.error e, w'.recast classes)) ∨
        ∃ x y, resolve c member kind w = (.ok x, w') ∧
          resolve d member kind (w.recast classes) = (.ok y, w'.recast classes) ∧
          PlacesAlike x y) := by
  obtain ⟨cache, x, y, hx, hy, hxy⟩ := remembered_alike hw ⟨c.name, member, kind⟩
  rw [← hcd.name] at hy
  cases hxy with
  | some hxy =>
    refine ⟨withCache cache w, hw, .inr ⟨_, _, resolve_of_remembered hx, ?_, hxy⟩⟩
    rw [resolve_of_remembered hy]
    rfl
  | none =>
    rw [resolve_of_forgotten hx, resolve_of_forgotten hy]
    unfold place
    rw [registry_withCache, registry_withCache, Work.registry_recast, hcd.order, hcd.name]
    rcases hw.findMember? member kind c.order with ⟨hf, hf'⟩ | ⟨o, o', found, hf, hf', hoo⟩
    · rw [hf, hf']
      exact ⟨withCache cache w, hw, .inl ⟨_, rfl, rfl⟩⟩
    · rw [hf, hf']
      dsimp only
      rw [hoo.name]
      refine ⟨_, ?_, .inr ⟨(o, found), (o', found), rfl, rfl, hoo, rfl⟩⟩
      exact hw

lemma receive_alike (t : Term) (member : String) (args : Option (List Term))
    (kwargs : Option (Dict String Term)) :
    (∃ e, receive w.registry t member args kwargs = .error e ∧
        receive (w.registry.recast classes) t member args kwargs = .error e) ∨
      ∃ p d, receive w.registry t member args kwargs = .ok p ∧
        receive (w.registry.recast classes) t member args kwargs = .ok { p with ofClass := d } ∧
        p.ofClass.Alike d ∧ p.object.hostType = p.ofClass.receiver := by
  have hb (r : Registry Obj) : receive r t member args kwargs =
      (refuseKeywords kwargs member).bind fun _ =>
        ((Marshal.fromTerm r t).bind (receiver member)).bind fun i => (r.classOf i).bind fun c =>
          (readArgs r args).bind fun args => .ok ⟨i, c, args⟩ := rfl
  have ha : readArgs (w.registry.recast classes) args = readArgs w.registry args := by
    cases args with
    | none => rfl
    | some ts => exact Registry.Recasts.fromTerms ts
  rw [hb, hb, ha, Registry.Recasts.fromTerm]
  generalize (Marshal.fromTerm w.registry t).bind (receiver member) = x
  generalize readArgs w.registry args = y
  cases refuseKeywords kwargs member with
  | error e => exact .inl ⟨e, rfl, rfl⟩
  | ok u =>
    cases x with
    | error e => exact .inl ⟨e, rfl, rfl⟩
    | ok i =>
      simp only [Except.bind]
      rcases hw.classOf_cases i with ⟨e, hc, hd⟩ | ⟨c, d, hc, hd, hcd, ht⟩
      · exact .inl ⟨e, by rw [hc], by rw [hd]⟩
      · rw [hc, hd]
        cases y with
        | error e => exact .inl ⟨e, rfl, rfl⟩
        | ok args => exact .inr ⟨⟨i, c, args⟩, d, rfl, rfl, hcd, ht⟩

variable [IdSource S]

lemma respond_unaffected {p : Receipt Obj} {d : Class Obj} (hcd : p.ofClass.Alike d)
    (ht : p.object.hostType = p.ofClass.receiver) (member : String) (kind : MemberKind)
    (hown : ∀ x, (resolve p.ofClass member kind w).1 = .ok x → x.1 = p.ofClass) :
    FollowsAt (Work.Recasts classes) (Work.recast classes)
      (respond member kind p : Dispatching S Obj Term) (respond member kind { p with ofClass := d })
      w := by
  obtain ⟨w', hw', ⟨e, hx, hy⟩ | ⟨x, y, hx, hy, hxy, hk⟩⟩ := resolve_alike hw hcd member kind
  · have hl : respond member kind p w = (.error e, w') := Failing.bind_error hx
    have hr : respond member kind { p with ofClass := d } (w.recast classes) =
        (.error e, w'.recast classes) := Failing.bind_error hy
    exact ⟨by rw [hl, hr], by rw [hl]; exact hw'⟩
  · have ho := hown x (by rw [hx])
    have hrun := hxy.runMember member x.2 (ho ▸ ht) p.args
    let m : Dispatching S Obj Term :=
      lift (runMember x.1 member x.2 p.object p.args) >>= fun v => marshal (Marshal.toTerm v)
    have hl : respond member kind p w = m w' := Failing.bind_ok hx
    have hr : respond member kind { p with ofClass := d } (w.recast classes) =
        m (w'.recast classes) := by
      refine (Failing.bind_ok hy).trans ?_
      dsimp only [m]
      rw [hk, hrun]
    have hm : Unaffected classes m m := (lift_unaffected _).attempt fun v => marshal_unaffected v
    exact ⟨by rw [hl, hr, (hm w' hw').eq], by rw [hl]; exact (hm w' hw').good⟩

end Members

/-- A member that a call asks for is found on the receiver's own class. -/
def OnOwnClass (w : Work S Obj) : Event → Prop
  | .externalCall _ t member args kwargs =>
    ∀ p, receive w.registry t member args kwargs = .ok p →
      ∀ x, (resolve p.ofClass member (kindOf args) w).1 = .ok x → x.1 = p.ofClass
  | _ => True

variable [IdSource S]

lemma callMember_unaffected {w : Work S Obj} (hw : w.Recasts classes) {callId : UInt64} {t : Term}
    {member : String} {args : Option (List Term)} {kwargs : Option (Dict String Term)}
    (hown : OnOwnClass w (.externalCall callId t member args kwargs)) :
    FollowsAt (Work.Recasts classes) (Work.recast classes)
      (callMember t member args kwargs : Dispatching S Obj Term) (callMember t member args kwargs)
      w := by
  have hl := callMember_eq t member args kwargs w
  have hr := callMember_eq t member args kwargs (w.recast classes)
  rcases receive_alike hw t member args kwargs with ⟨e, hx, hy⟩ | ⟨p, d, hx, hy, hcd, ht⟩
  · rw [hx] at hl
    rw [Work.registry_recast, hy] at hr
    exact .of_eq hl hr ⟨rfl, hw⟩
  · rw [hx] at hl
    rw [Work.registry_recast, hy] at hr
    exact .of_eq hl hr (respond_unaffected hw hcd ht member (kindOf args) (hown p hx))

theorem dispatch_unaffected {w : Work S Obj} (hw : w.Recasts classes) (e : Event)
    (hown : OnOwnClass w e) :
    FollowsAt (Work.Recasts classes) (Work.recast classes)
      (dispatch e : Dispatching S Obj (Option Answer)) (dispatch e) w := by
  cases e with
  | makeExternal id t =>
    exact (makeExternal_unaffected id t w hw).attempt fun _ => Follows.succeed _
  | externalCall callId t member args kwargs =>
    exact (callMember_unaffected hw hown).attempt fun _ => Follows.succeed _
  | nextExternal callId iterable =>
    exact (nextExternal_unaffected callId iterable w hw).attempt fun _ => Follows.succeed _
  | externalIsSubclass callId left right =>
    refine reading_unaffected (fun r hr => ?_) w hw
    rw [hr.isSubclass]
    exact Follows.succeed _
  | externalIsa callId t tag =>
    refine reading_unaffected (fun r hr => ?_) w hw
    rw [hr.isa]
    exact (lift_unaffected _).attempt fun _ => Follows.succeed _
  | externalIsSubSpecializer callId id left right =>
    refine reading_unaffected (fun r hr => ?_) w hw
    rw [hr.isSubSpecializer]
    exact (lift_unaffected _).attempt fun _ => Follows.succeed _
  | externalUnify callId left right =>
    refine reading_unaffected (fun r hr => ?_) w hw
    rw [hr.unify]
    exact (lift_unaffected _).attempt fun _ => Follows.succeed _
  | externalOp callId o args =>
    refine reading_unaffected (fun r hr => ?_) w hw
    rw [hr.compareTerms]
    exact (lift_unaffected _).attempt fun _ => Follows.succeed _
  | done _ | result _ _ => exact Follows.throw _ w hw

/-- Whatever classes are built and registered, the one found for an object is registered under its
own name and made for the object's type. So in answering an event it makes no difference with what
error classes refuse receivers of other types, unless a member is asked for that the receiver's
class inherits. -/
theorem own_receivers_fit (bs : List (Blueprint Obj)) :
    (∀ i c, (Blueprint.registered bs).classFor? i = some c →
      (Blueprint.registered bs).class? c.name = some c ∧ c.objectType = some i.hostType) ∧
    ∀ (x : Error) (w : Work S Obj) (e : Event),
      w.registry.byName = (Blueprint.registered bs).byName →
      w.registry.byType = (Blueprint.registered bs).byType → OnOwnClass w e →
      let refusing := Work.recast (Blueprint.registeredRefusing x bs).byName
      dispatch e (refusing w) = ((dispatch e w).1, refusing (dispatch e w).2) := by
  have hc : Registry.Coherent (Blueprint.registered bs) := Registry.registerAll_coherent _
  refine ⟨fun i c => hc.sound, fun x w e hn ht hown => ?_⟩
  have hb : (Blueprint.registered bs).Recasts (Blueprint.registeredRefusing x bs).byName :=
    ⟨hc, Blueprint.registered_alike bs x⟩
  exact (dispatch_unaffected (hb.of_same hn ht) e hown).eq

section Samples

def animal : Blueprint String :=
  ⟨"Animal", some ⟨"Alpha"⟩, [.getter "label" fun o => .value (.string o)]⟩

def dog : Blueprint String := ⟨"Dog", some ⟨"Beta"⟩, [.specializers ["Animal"]]⟩

def kennel : Work Counter String :=
  ⟨⟨⟨3⟩, { Blueprint.registered [animal, dog] with
    entries := [(1, ⟨⟨"tom", ⟨"Alpha"⟩, .brought 0, none⟩, .query⟩),
      (2, ⟨⟨"rex", ⟨"Beta"⟩, .brought 1, none⟩, .query⟩)] }, none⟩, .fresh⟩

def labelOf (id : UInt64) : Event := .externalCall 7 (.external id none none none) "label" none none

theorem own_receivers_fit_animal :
    OnOwnClass kennel (labelOf 1) ∧
      (dispatch (labelOf 1)
        (kennel.recast (Blueprint.registeredRefusing (.raised "no") [animal, dog]).byName)).1 =
          .ok (some ⟨7, some (.string "tom")⟩) := by
  have hown : OnOwnClass kennel (labelOf 1) := by
    intro p hp x hx
    cases hp
    cases hx
    rfl
  refine ⟨hown, ?_⟩
  rw [(own_receivers_fit [animal, dog]).2 (.raised "no") kennel (labelOf 1) rfl rfl hown]
  rfl

example : (dispatch (labelOf 2) kennel).1 = .error
    (.protocol "Animal.label cannot receive an instance of Beta") := rfl

end Samples

end Dispatching

end PolicyBridge
