import Mathlib.Tactic
import PolicyBridge.Proofs.Following
import PolicyBridge.Dispatch.Basic

/-! A host seen as another one that draws the same ids but may keep more or less beside them.
Marshaling does the same on both. -/

namespace PolicyBridge

variable {S T Obj α : Type}

namespace Marshal

variable [IdSource S] [IdSource T] {P : Desk S Obj → Prop} {v : Desk S Obj → Desk T Obj}

mutual

lemma toTerm_follows (h : ∀ i, Follows P v (objectTerm i) (objectTerm i)) :
    (a : HostValue Obj) → Follows P v (toTerm a) (toTerm a)
  | .integer _ | .string _ | .boolean _ | .var _ => by
    unfold toTerm
    exact Follows.succeed _
  | .float x => by
    unfold toTerm
    split
    · exact Follows.succeed _
    · exact Follows.throw _
  | .list items => by
    unfold toTerm
    exact (toTerms_follows h items).attempt fun _ => Follows.succeed _
  | .map fields => by
    unfold toTerm
    exact (toFields_follows h fields).attempt fun _ => Follows.succeed _
  | .object i => by
    unfold toTerm
    exact h i

lemma toTerms_follows (h : ∀ i, Follows P v (objectTerm i) (objectTerm i)) :
    (as : List (HostValue Obj)) → Follows P v (toTerms as) (toTerms as)
  | [] => by
    unfold toTerms
    exact Follows.succeed _
  | a :: as => by
    unfold toTerms
    exact (toTerm_follows h a).attempt fun _ =>
      (toTerms_follows h as).attempt fun _ => Follows.succeed _

lemma toFields_follows (h : ∀ i, Follows P v (objectTerm i) (objectTerm i)) :
    (fs : List (String × HostValue Obj)) → Follows P v (toFields fs) (toFields fs)
  | [] => by
    unfold toFields
    exact Follows.succeed _
  | (k, a) :: fs => by
    unfold toFields
    exact (toTerm_follows h a).attempt fun _ =>
      (toFields_follows h fs).attempt fun _ => Follows.succeed _

end

end Marshal

/-- How a host is seen as another, and which classes and memories are good for it. -/
structure View (S T Obj : Type) [IdSource S] [IdSource T] where
  source : S → T
  cache : Option Cache → Option Cache
  good : Dict String (Class Obj) → Option Cache → Prop
  next : ∀ s, IdSource.next (source s) = ((IdSource.next s).1, source (IdSource.next s).2)

namespace View

variable [IdSource S] [IdSource T] (V : View S T Obj)

def desk (d : Desk S Obj) : Desk T Obj := ⟨V.source d.source, d.registry, d.allocated⟩

def Marshals (m : Marshaling S Obj α) (m' : Marshaling T Obj α) : Prop :=
  ∀ c, Follows (fun d => V.good d.registry.byName c) V.desk m m'

lemma enlist_follows (i : Instance Obj) : V.Marshals (Marshal.enlist i) (Marshal.enlist i) := by
  intro c d hd
  refine ⟨?_, hd⟩
  change ((.ok (IdSource.next (V.source d.source)).1, ⟨(IdSource.next (V.source d.source)).2,
    d.registry.register (IdSource.next (V.source d.source)).1 i .query,
    d.allocated ++ [(IdSource.next (V.source d.source)).1]⟩) : Except Error UInt64 × Desk T Obj) = _
  rw [V.next]
  rfl

lemma idOf_follows (i : Instance Obj) : V.Marshals (Marshal.idOf i) (Marshal.idOf i) := by
  intro c
  unfold Marshal.idOf
  cases i.id with
  | none => exact V.enlist_follows i c
  | some id =>
    refine Follows.reading fun d => ?_
    change Follows _ _ (ite (d.registry.holds id i = true) _ _)
      (ite (d.registry.holds id i = true) _ _)
    split
    · exact Follows.succeed id
    · exact Follows.throw _

lemma objectTerm_follows (i : Instance Obj) :
    V.Marshals (Marshal.objectTerm i) (Marshal.objectTerm i) := fun c =>
  (V.idOf_follows i c).attempt fun _ => Follows.reading fun _ => Follows.succeed _

lemma toTerm_follows (v : HostValue Obj) : V.Marshals (Marshal.toTerm v) (Marshal.toTerm v) :=
  fun c => Marshal.toTerm_follows (fun i => V.objectTerm_follows i c) v

lemma toTerms_follows (vs : List (HostValue Obj)) :
    V.Marshals (Marshal.toTerms vs) (Marshal.toTerms vs) :=
  fun c => Marshal.toTerms_follows (fun i => V.objectTerm_follows i c) vs

lemma toFields_follows (fs : List (String × HostValue Obj)) :
    V.Marshals (Marshal.toFields fs) (Marshal.toFields fs) :=
  fun c => Marshal.toFields_follows (fun i => V.objectTerm_follows i c) fs

end View

end PolicyBridge
