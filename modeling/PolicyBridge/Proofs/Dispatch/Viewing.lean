import Mathlib.Tactic
import PolicyBridge.Proofs.Dispatch.Drawing
import PolicyBridge.Proofs.Marshal.Viewing

/-! Answering an event does the same on a host and on its view, where members are found alike. -/

namespace PolicyBridge

variable {S T Obj α β : Type}

namespace View

open Dispatching

variable [IdSource S] [IdSource T] (V : View S T Obj)

def host (h : Host S Obj) : Host T Obj := ⟨V.source h.source, h.registry, V.cache h.cache⟩

def work (w : Work S Obj) : Work T Obj := ⟨V.host w.host, w.own⟩

@[simp] lemma registry_work (w : Work S Obj) : (V.work w).registry = w.registry := rfl

@[simp] lemma own_work (w : Work S Obj) : (V.work w).own = w.own := rfl

def goodHost (h : Host S Obj) : Prop := V.good h.registry.byName h.cache

def Dispatches (m : Dispatching S Obj α) (m' : Dispatching T Obj α) : Prop :=
  Follows (fun w => V.goodHost w.host) V.work m m'

def Resolves : Prop :=
  ∀ (c : Class Obj) (member : String) (kind : MemberKind) (w : Work S Obj) (i : Instance Obj),
    V.goodHost w.host → w.registry.classFor? i = some c →
      FollowsAt (fun w => V.goodHost w.host) V.work
        (resolve c member kind : Dispatching S Obj _)
        (resolve c member kind : Dispatching T Obj _) w

lemma lift_dispatches (x : Except Error α) :
    V.Dispatches (lift x) (lift x) :=
  fun _ h => ⟨rfl, h⟩

lemma marshal_dispatches {m : Marshaling S Obj α} {m' : Marshaling T Obj α} (h : V.Marshals m m') :
    V.Dispatches (marshal m) (marshal m') := by
  intro w hw
  obtain ⟨he, hg⟩ := h w.host.cache w.desk hw
  refine ⟨?_, hg⟩
  change ((m' (V.desk w.desk)).1, (V.work w).withDesk (m' (V.desk w.desk)).2) = _
  rw [he]
  rfl

lemma reading_registry {f : Registry Obj → Dispatching S Obj α}
    {f' : Registry Obj → Dispatching T Obj α} (h : ∀ r, V.Dispatches (f r) (f' r)) :
    V.Dispatches (registry >>= f) (registry >>= f') :=
  fun w hw => ⟨(h w.registry w hw).eq, (h w.registry w hw).good⟩

lemma makeExternal_dispatches (id : UInt64) (t : Term) :
    V.Dispatches (makeExternal id t) (makeExternal id t) := by
  intro w hw
  refine ⟨?_, ?_⟩
  · rw [makeExternal_eq, makeExternal_eq, V.registry_work]
    cases furnish w.registry id t <;> rfl
  · rw [makeExternal_eq]
    cases hf : furnish w.registry id t with
    | error e => exact hw
    | ok r =>
      change V.good r.byName w.host.cache
      rw [(furnish_gains hf).2.byName]
      exact hw

lemma cursor_dispatches (callId : UInt64) (iterable : Term) :
    V.Dispatches (cursor callId iterable) (cursor callId iterable) := by
  refine Follows.reading fun w => ?_
  rw [own_work]
  cases w.own.iterators.find? callId with
  | some c => exact Follows.succeed c
  | none =>
    refine V.reading_registry fun r => ?_
    exact (V.lift_dispatches _).attempt fun _ => Follows.succeed _

lemma setIterators_dispatches (its : Dict UInt64 (Cursor Obj)) :
    V.Dispatches (setIterators its) (setIterators its) :=
  fun _ h => ⟨rfl, h⟩

lemma nextExternal_dispatches (callId : UInt64) (iterable : Term) :
    V.Dispatches (nextExternal callId iterable)
      (nextExternal callId iterable) := by
  refine (V.cursor_dispatches callId iterable).attempt fun c => Follows.reading fun w => ?_
  dsimp only [own_work]
  cases c.steps c.position with
  | none => exact (V.setIterators_dispatches _).attempt fun _ => Follows.succeed _
  | some o =>
    refine (V.setIterators_dispatches _).attempt fun _ => ?_
    refine (V.lift_dispatches _).attempt fun v => ?_
    exact (V.marshal_dispatches (V.toTerm_follows v)).attempt fun _ => Follows.succeed _

lemma respond_followsAt {w : Work S Obj} (member : String) (kind : MemberKind) (p : Receipt Obj)
    (hr : FollowsAt (fun w => V.goodHost w.host) V.work
      (resolve p.ofClass member kind : Dispatching S Obj _)
      (resolve p.ofClass member kind : Dispatching T Obj _) w) :
    FollowsAt (fun w => V.goodHost w.host) V.work
      (respond member kind p : Dispatching S Obj Term)
      (respond member kind p : Dispatching T Obj Term) w := by
  refine hr.attempt fun found => ?_
  exact (V.lift_dispatches _).attempt fun v => V.marshal_dispatches (V.toTerm_follows v)

def ResolvesAt (w : Work S Obj) : Event → Prop
  | .externalCall _ t member args kwargs =>
    ∀ p, receive w.registry t member args kwargs = .ok p →
      FollowsAt (fun w => V.goodHost w.host) V.work
        (resolve p.ofClass member (kindOf args) : Dispatching S Obj _)
        (resolve p.ofClass member (kindOf args) : Dispatching T Obj _) w
  | _ => True

variable {V}

lemma callMember_followsAt {w : Work S Obj} (hw : V.goodHost w.host) {callId : UInt64} {t : Term}
    {member : String} {args : Option (List Term)} {kwargs : Option (Dict String Term)}
    (hr : V.ResolvesAt w (.externalCall callId t member args kwargs)) :
    FollowsAt (fun w => V.goodHost w.host) V.work
      (callMember t member args kwargs : Dispatching S Obj Term)
      (callMember t member args kwargs : Dispatching T Obj Term) w := by
  refine .of_eq (callMember_eq t member args kwargs w)
    (callMember_eq t member args kwargs (V.work w)) ?_
  rw [V.registry_work]
  cases hp : receive w.registry t member args kwargs with
  | error e => exact ⟨rfl, hw⟩
  | ok p => exact .of_eq rfl rfl (V.respond_followsAt member (kindOf args) p (hr p hp))

theorem dispatch_followsAt {e : Event} {w : Work S Obj} (hw : V.goodHost w.host)
    (hr : V.ResolvesAt w e) :
    FollowsAt (fun w => V.goodHost w.host) V.work
      (dispatch e : Dispatching S Obj (Option Answer)) (dispatch e) w := by
  cases e with
  | makeExternal id t =>
    exact (V.makeExternal_dispatches id t w hw).attempt fun _ => Follows.succeed _
  | externalCall callId t member args kwargs =>
    exact (callMember_followsAt hw hr).attempt fun _ => Follows.succeed _
  | nextExternal callId iterable =>
    exact (V.nextExternal_dispatches callId iterable w hw).attempt fun _ => Follows.succeed _
  | externalIsSubclass callId left right => exact V.reading_registry (fun _ => Follows.succeed _) w hw
  | done _ | result _ _ => exact Follows.throw _ w hw
  | _ =>
    exact V.reading_registry (fun _ => (V.lift_dispatches _).attempt fun _ => Follows.succeed _) w hw

theorem dispatch_follows (hV : V.Resolves) (e : Event) : V.Dispatches (dispatch e) (dispatch e) := by
  intro w hw
  refine dispatch_followsAt hw ?_
  cases e with
  | externalCall callId t member args kwargs =>
    exact fun p hp => hV p.ofClass member (kindOf args) w p.object hw (classFor?_of_receive hp)
  | _ => trivial

end View

section Sources

variable [IdSource S] [IdSource T]

def View.along (source : S → T)
    (next : ∀ s, IdSource.next (source s) = ((IdSource.next s).1, source (IdSource.next s).2)) :
    View S T Obj where
  source := source
  cache := id
  good _ _ := True
  next := next

lemma View.along_resolves (source : S → T)
    (next : ∀ s, IdSource.next (source s) = ((IdSource.next s).1, source (IdSource.next s).2)) :
    (View.along source next : View S T Obj).Resolves := by
  rintro c member kind w - - -
  have hr (k : Lookup) : (View.along source next : View S T Obj).Dispatches
      (Dispatching.remembered k) (Dispatching.remembered k) := by
    rintro ⟨⟨_, _, cache⟩, _⟩ -
    cases cache <;> exact ⟨rfl, trivial⟩
  have hs (k : Lookup) (x : Resolution) : (View.along source next : View S T Obj).Dispatches
      (Dispatching.remember k x) (Dispatching.remember k x) :=
    fun _ _ => ⟨rfl, trivial⟩
  refine FollowsAt.attempt (hr _ w trivial) fun found => ?_
  cases found with
  | some x => exact Follows.succeed x
  | none =>
    refine View.reading_registry _ fun r => ?_
    split
    · exact Follows.attempt (hs _ _) fun _ => Follows.succeed _
    · exact Follows.throw _

lemma Dispatching.dispatch_keeps {P : S → Prop} (hP : ∀ s, P s → P (IdSource.next s).2) (e : Event)
    (w : Work S Obj) (hw : P w.host.source) : P (dispatch e w).2.host.source := by
  let draw : IdSource {s : S // P s} :=
    ⟨fun s => ((IdSource.next s.1).1, ⟨(IdSource.next s.1).2, hP s.1 s.2⟩)⟩
  let V : View {s : S // P s} S Obj := View.along Subtype.val fun _ => rfl
  let w' : Work {s : S // P s} Obj :=
    ⟨⟨⟨w.host.source, hw⟩, w.host.registry, w.host.cache⟩, w.own⟩
  have hf : FollowsAt _ V.work _ _ w' :=
    View.dispatch_follows (View.along_resolves _ _) e w' trivial
  have h := hf.eq
  have hv : V.work w' = w := rfl
  rw [hv] at h
  rw [h]
  exact (dispatch e w').2.host.source.2

end Sources

end PolicyBridge
